import GridOutage.OutageList.Basic

/-!
# The list store (`store` of ctg-contingency)

The stored lists, each under a key, with every key at most once. The five operations read or
change the entry of one key; listing gives all lists by name, and by identifier where names are
equal.
-/
namespace GridOutage

/-- Mirrors `InMemoryContingencyListStore`. -/
structure Store where
  entries : List (Uuid × OutageList)
  distinct : (entries.map Prod.fst).Nodup := by decide

namespace Store

open OutageList (Fault)

def empty : Store := ⟨[], List.nodup_nil⟩

instance : Inhabited Store := ⟨empty⟩

def get? (s : Store) (id : Uuid) : Option OutageList := s.entries.lookup id

/-- The store without the entry of a key. -/
def erase (s : Store) (id : Uuid) : Store :=
  ⟨s.entries.filter fun e => e.1 != id, s.distinct.sublist (List.filter_sublist.map _)⟩

/-- The store with a list under its identifier, in the place of any other list there. -/
def put (s : Store) (l : OutageList) : Store where
  entries := (l.id, l) :: (s.erase l.id).entries
  distinct := List.nodup_cons.2 ⟨by simp [erase], (s.erase l.id).distinct⟩

/-- The store of some lists. Of lists with one identifier the last is kept. Mirrors
`InMemoryContingencyListStore::with_records`. -/
def ofLists (ls : List OutageList) : Store := ls.foldl put empty

/-- A new list under its identifier, which must not be in use. -/
def insert (s : Store) (l : OutageList) : Except Fault Store :=
  if (s.get? l.id).isSome then .error (.alreadyExists l.id) else .ok (s.put l)

/-- A list in the place of the one that has its identifier. Without that one nothing changes. -/
def replace (s : Store) (l : OutageList) : Option OutageList × Store :=
  match s.get? l.id with
  | some old => (some old, s.put l)
  | none => (none, s)

def delete (s : Store) (id : Uuid) : Option OutageList × Store := (s.get? id, s.erase id)

/-- By name, then by identifier. -/
def before (a b : OutageList) : Bool := if a.name = b.name then a.id.le b.id else a.name < b.name

/-- Every stored list once, in order. -/
def list (s : Store) : List OutageList := (s.entries.map Prod.snd).mergeSort before

end Store

end GridOutage
