import GridOutage.CommandLine.PatternEngine
import GridOutage.Proofs.OutageList.Service

/-!
# Calls of the list service

A `Call` is one operation of the service with everything it is given, the identifier and the time
that come from outside included. `Does` says what a call that succeeds makes of the store: a new
list under an identifier that was free, another list in the place of one, one list less, or nothing.

`run_atomic` is the step lemma: a call does that in full or leaves the store untouched. With it and
`Operation.run_keyed`, `call_atomic` says the same of every call and of the stores that runs of
calls reach; `runAll_preserves` takes an invariant from single calls to runs.
-/
namespace GridOutage.OutageList

/-- One operation of the service with its arguments. -/
inductive Call where
  | create (fresh : Uuid) (now : Instant) (name : String) (content : ListContent)
  | update (now : Instant) (id : Uuid) (name : String) (content : ListContent)
  | delete (id : Uuid)
  | duplicate (fresh : Uuid) (now : Instant) (id : Uuid)
  | newScript (fresh : Uuid) (now : Instant) (id : Uuid) (name : String)
  | replaceWithScript (now : Instant) (id : Uuid)
  | get (id : Uuid)
  | list
  | scriptOf (id : Uuid)
  | exported (net : Network) (source : Option (FilterSource Id)) (id : Uuid)
  | count (net : Network) (source : Option (FilterSource Id)) (id : Uuid)

namespace Call

/-- What a call answers if it succeeds. -/
abbrev Answer : Call → Type
  | .create .. | .update .. | .duplicate .. | .newScript .. | .replaceWithScript .. | .get _ =>
    OutageList
  | .delete _ => Unit
  | .list => List OutageList
  | .scriptOf _ => String
  | .exported .. => Exported
  | .count .. => ContingencyCount

section

variable [PatternEngine]

def operation : (c : Call) → Operation c.Answer
  | .create fresh now name content => OutageList.create fresh now name content
  | .update now id name content => OutageList.update now id name content
  | .delete id => OutageList.delete id
  | .duplicate fresh now id => OutageList.duplicate fresh now id
  | .newScript fresh now id name => OutageList.newScript fresh now id name
  | .replaceWithScript now id => OutageList.replaceWithScript now id
  | .get id => OutageList.get id
  | .list => OutageList.list
  | .scriptOf id => OutageList.scriptOf id
  | .exported net source id => OutageList.export? net source id
  | .count net source id => OutageList.count net source id

/-- The outcome of a call and the store after it. -/
def run (c : Call) (s : Store) : Except Error c.Answer × Store := c.operation.run s

/-- The store after a list of calls, whether they succeed or fail. -/
def runAll (calls : List Call) (s : Store) : Store := calls.foldl (fun s c => (c.run s).2) s

end

/-- What a call that succeeds with an answer makes of the store. -/
def Does : (c : Call) → c.Answer → Store → Store → Prop
  | .create fresh now name content, l, s, after =>
    l = ⟨fresh, name, now, content⟩ ∧ Store.Adds l s after
  | .update now id name content, l, s, after =>
    l = ⟨id, name, now, content⟩ ∧ Store.Replaces l s after
  | .delete id, _, s, after => Store.Removes id s after
  | .duplicate fresh now id, l, s, after =>
    (∃ old, s.get? id = some old ∧ l = ⟨fresh, old.name, now, old.content⟩) ∧ Store.Adds l s after
  | .newScript fresh now id name, l, s, after =>
    (∃ script, scriptOfForm s id = .ok script ∧ l = ⟨fresh, name, now, .script script⟩) ∧
      Store.Adds l s after
  | .replaceWithScript now id, l, s, after =>
    (∃ old script, s.get? id = some old ∧ scriptOfForm s id = .ok script ∧
      l = ⟨id, old.name, now, .script script⟩) ∧ Store.Replaces l s after
  | .get _, _, s, after | .list, _, s, after | .scriptOf _, _, s, after
  | .exported .., _, s, after | .count .., _, s, after => after = s

/-- A call that fails leaves the store as it was, and one that succeeds does what it is for. -/
def Atomic (c : Call) (s : Store) : Except Error c.Answer × Store → Prop
  | (.error _, after) => after = s
  | (.ok answer, after) => c.Does answer s after

theorem found_eq_ok_iff {s : Store} {id : Uuid} {l : OutageList} :
    found s id = .ok l ↔ s.get? id = some l := by
  unfold found
  cases s.get? id <;> simp

section

variable [PatternEngine]

/-- Of a call that changes nothing it is enough to know what it does when it succeeds. -/
theorem atomic_of_unchanged {c : Call} {s : Store} (h : (c.run s).2 = s)
    (hdoes : ∀ answer, c.Does answer s s) : c.Atomic s (c.run s) := by
  rcases hr : c.run s with ⟨e | answer, after⟩
  · rw [hr] at h
    exact h
  · rw [hr] at h
    obtain rfl : after = s := h
    exact hdoes answer

theorem run_atomic (c : Call) (s : Store) : c.Atomic s (c.run s) := by
  cases c with
  | create fresh now name content =>
    change Atomic (.create fresh now name content) s ((OutageList.create fresh now name content).run s)
    rw [run_create]
    split
    · rfl
    · rfl
    · next hfree => exact ⟨rfl, Store.adds_put hfree⟩
  | update now id name content =>
    change Atomic (.update now id name content) s ((OutageList.update now id name content).run s)
    rw [run_update]
    split
    · rfl
    · next hused => exact ⟨rfl, Store.replaces_put hused⟩
    · rfl
  | delete id =>
    change Atomic (.delete id) s ((OutageList.delete id).run s)
    rw [run_delete]
    split
    · next hused => exact Store.removes_erase hused
    · rfl
  | duplicate fresh now id =>
    change Atomic (.duplicate fresh now id) s ((OutageList.duplicate fresh now id).run s)
    rw [run_duplicate]
    split
    · rfl
    · rfl
    · next old hold hfree => exact ⟨⟨old, hold, rfl⟩, Store.adds_put hfree⟩
  | newScript fresh now id name =>
    change Atomic (.newScript fresh now id name) s ((OutageList.newScript fresh now id name).run s)
    rw [run_newScript]
    split
    · rfl
    · next script hscript =>
      rw [run_create]
      split
      · rfl
      · rfl
      · next hfree => exact ⟨⟨script, hscript, rfl⟩, Store.adds_put hfree⟩
  | replaceWithScript now id =>
    change Atomic (.replaceWithScript now id) s ((OutageList.replaceWithScript now id).run s)
    rw [run_replaceWithScript]
    split
    · rfl
    · rfl
    · next script old hscript hold =>
      rw [run_update]
      split
      · rfl
      · next hused =>
        exact ⟨⟨old, script, found_eq_ok_iff.1 hold, hscript, rfl⟩, Store.replaces_put hused⟩
      · rfl
  | get id => exact atomic_of_unchanged (readOnly_get id s) fun _ => rfl
  | list => exact atomic_of_unchanged rfl fun _ => rfl
  | scriptOf id => exact atomic_of_unchanged (readOnly_scriptOf id s) fun _ => rfl
  | exported net source id =>
    exact atomic_of_unchanged (congrArg Prod.snd (run_export? net source id s)) fun _ => rfl
  | count net source id =>
    exact atomic_of_unchanged (congrArg Prod.snd (run_count net source id s)) fun _ => rfl

/-- What each call of a run keeps, the run keeps. -/
theorem runAll_preserves {P : Store → Prop} {calls : List Call}
    (hstep : ∀ c ∈ calls, ∀ s, P s → P (c.run s).2) {s : Store} (h : P s) : P (runAll calls s) := by
  induction calls generalizing s with
  | nil => exact h
  | cons c calls ih =>
    obtain ⟨hc, hrest⟩ := List.forall_mem_cons.1 hstep
    exact ih hrest (hc s h)

theorem runAll_keyed (calls : List Call) {s : Store} (h : s.Keyed) : (runAll calls s).Keyed :=
  runAll_preserves (fun c _ _ hs => c.operation.run_keyed hs) h

/-- A call that fails leaves the store as it was, one that succeeds changes the one list that it is
for, and in every store that calls reach each list stands under its own identifier. -/
theorem call_atomic (c : Call) (s : Store) :
    (∀ e after, c.run s = (.error e, after) → after = s) ∧
    (∀ answer after, c.run s = (.ok answer, after) → c.Does answer s after) ∧
    (s.Keyed → (c.run s).2.Keyed) ∧
    ∀ (ls : List OutageList) (calls : List Call), (runAll calls (Store.ofLists ls)).Keyed := by
  have hatomic := c.run_atomic s
  refine ⟨?_, ?_, fun h => c.operation.run_keyed h, fun ls calls => ?_⟩
  · intro e after hr
    rw [hr] at hatomic
    exact hatomic
  · intro answer after hr
    rw [hr] at hatomic
    exact hatomic
  · exact runAll_keyed calls (Store.keyed_ofLists ls)

end

/-- A pair of lines that go out together. -/
def pair : OutageList :=
  { id := .ofNat 7, name := "pair", modified := default, content := .identifiers [⟨"N-2", ["L1", "L2"]⟩] }

theorem call_atomic_copy :
    (Call.duplicate (.ofNat 8) ⟨60, 0⟩ (.ofNat 7)).Does
      { pair with id := .ofNat 8, modified := ⟨60, 0⟩ } (.ofLists [pair])
      ((Store.ofLists [pair]).put { pair with id := .ofNat 8, modified := ⟨60, 0⟩ }) := by
  have hrun : (Call.duplicate (.ofNat 8) ⟨60, 0⟩ (.ofNat 7)).run (.ofLists [pair]) =
      (.ok { pair with id := .ofNat 8, modified := ⟨60, 0⟩ },
        (Store.ofLists [pair]).put { pair with id := .ofNat 8, modified := ⟨60, 0⟩ }) := by
    refine (run_duplicate _ _ _ _).trans ?_
    have hused : (Store.ofLists [pair]).get? (.ofNat 7) = some pair := by decide
    have hfree : (Store.ofLists [pair]).get? (.ofNat 8) = none := by decide
    rw [hused, hfree]
  exact (call_atomic _ _).2.1 _ _ hrun

end Call

end GridOutage.OutageList
