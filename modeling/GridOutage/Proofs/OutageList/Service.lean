import GridOutage.OutageList.Service
import GridOutage.Proofs.OutageList.Operation

/-!
# What each list operation does

One equation for each operation of the list service: what it answers and which store it leaves, by
cases of what it is given and of what is stored. Each case that ends in an error leaves the store
it started from.
-/
namespace GridOutage.OutageList

open Operation
open GridOutage.Filter (FilterSpec)

/-! ## Reading -/

/-- What a look-up answers: the list of an identifier, or that there is none. -/
def found (s : Store) (id : Uuid) : Except Error OutageList :=
  match s.get? id with
  | some l => .ok l
  | none => .error (.list (.unknown id))

/-- The script of a form that is stored under an identifier. -/
def scriptOfForm (s : Store) (id : Uuid) : Except Error String :=
  (found s id).bind fun l => match l.content with
    | .form spec => spec.toScript.mapError .rejected
    | content => .error (.list (.notAForm id content.kind))

/-- The script of a form or of a script list that is stored under an identifier. -/
def scriptAt (s : Store) (id : Uuid) : Except Error String :=
  (found s id).bind fun l => match l.content with
    | .form spec => spec.toScript.mapError .rejected
    | .script text => .ok text
    | content => .error (.list (.noScriptForm id content.kind))

@[simp] theorem run_get (id : Uuid) (s : Store) : (get id).run s = (found s id, s) := by
  unfold get found
  rw [run_bind, Operation.run_get]
  dsimp only
  cases s.get? id <;> rfl

@[simp] theorem run_formScript (id : Uuid) (s : Store) :
    (formScript id).run s = (scriptOfForm s id, s) := by
  unfold formScript scriptOfForm
  rw [run_bind, run_get]
  cases found s id with
  | error e => rfl
  | ok l =>
    dsimp only [Except.bind]
    cases l.content <;> rfl

@[simp] theorem run_scriptOf (id : Uuid) (s : Store) : (scriptOf id).run s = (scriptAt s id, s) := by
  unfold scriptOf scriptAt
  rw [run_bind, run_get]
  cases found s id with
  | error e => rfl
  | ok l =>
    dsimp only [Except.bind]
    cases l.content <;> rfl

theorem readOnly_get (id : Uuid) : (get id).ReadOnly := fun s => by rw [run_get]

theorem readOnly_scriptOf (id : Uuid) : (scriptOf id).ReadOnly := fun s => by rw [run_scriptOf]

/-! ## Exporting -/

section

variable [PatternEngine]

theorem run_export? (net : Network) (source : Option (FilterSource Id)) (id : Uuid) (s : Store) :
    (export? net source id).run s = ((found s id).bind fun l => (l.exported net source).run, s) := by
  unfold export?
  rw [run_bind, run_get]
  cases found s id <;> rfl

theorem run_count (net : Network) (source : Option (FilterSource Id)) (id : Uuid) (s : Store) :
    (count net source id).run s = (((export? net source id).run s).1.map Exported.count, s) := by
  rw [count, run_map, run_export?]

theorem readOnly_export? (net : Network) (source : Option (FilterSource Id)) (id : Uuid) :
    (export? net source id).ReadOnly := fun s => by rw [run_export?]

/-- Each list is exported by itself, whatever becomes of the others. -/
theorem run_exportAll (net : Network) (source : Option (FilterSource Id)) (ids : List Uuid)
    (s : Store) :
    (exportAll net source ids).run s =
      (.ok (ids.map fun id => ((export? net source id).run s).1), s) := by
  unfold exportAll
  induction ids with
  | nil => rfl
  | cons id ids ih =>
    rw [List.mapM_cons, run_bind, run_attempt, readOnly_export?]
    dsimp only
    rw [run_bind, ih]
    rfl

variable {s : Store} {id : Uuid} {l : OutageList} (hl : s.get? id = some l) (net : Network)

include hl

theorem run_export?_of_local (h : ∀ ids, l.content ≠ .filters ids)
    (source : Option (FilterSource Id)) :
    (export? net source id).run s =
      ((localContingencies net l.id l.content).map fun cs => ⟨l.id, l.name, cs⟩, s) := by
  rw [run_export?, found, hl]
  dsimp only [Except.bind]
  unfold exported contingencies
  cases hc : l.content with
  | filters ids => exact absurd hc (h ids)
  | form spec => cases source <;> rfl
  | identifiers groups => cases source <;> rfl
  | script text => cases source <;> rfl

theorem run_export?_of_filters {ids : List Uuid} (hc : l.content = .filters ids)
    (ask : FilterSource Id) :
    (export? net (some ask) id).run s =
      (((ask ids).run >>= Contingency.perElement).map fun cs => ⟨l.id, l.name, cs⟩, s) := by
  rw [run_export?, found, hl]
  dsimp only [Except.bind]
  unfold exported contingencies
  rw [hc]
  rfl

theorem run_export?_of_no_source {ids : List Uuid} (hc : l.content = .filters ids) :
    (export? net none id).run s = (.error (.list (.noFilterService l.id)), s) := by
  rw [run_export?, found, hl]
  dsimp only [Except.bind]
  unfold exported contingencies
  rw [hc]
  rfl

end

/-! ## Changing -/

theorem run_create (fresh : Uuid) (now : Instant) (name : String) (content : ListContent)
    (s : Store) :
    (create fresh now name content).run s =
      match content.validate, s.get? fresh with
      | .error e, _ => (.error e, s)
      | .ok (), some _ => (.error (.list (.alreadyExists fresh)), s)
      | .ok (), none => (.ok ⟨fresh, name, now, content⟩, s.put ⟨fresh, name, now, content⟩) := by
  unfold create
  rw [run_bind, run_lift]
  cases content.validate with
  | error e => rfl
  | ok =>
    dsimp only
    cases hf : s.get? fresh with
    | some old => rw [run_bind, run_insert_of_used hf]
    | none => rw [run_bind, run_insert_of_unused hf]; rfl

theorem run_update (now : Instant) (id : Uuid) (name : String) (content : ListContent) (s : Store) :
    (update now id name content).run s =
      match content.validate, s.get? id with
      | .error e, _ => (.error e, s)
      | .ok (), some _ => (.ok ⟨id, name, now, content⟩, s.put ⟨id, name, now, content⟩)
      | .ok (), none => (.error (.list (.unknown id)), s) := by
  unfold update
  rw [run_bind, run_lift]
  cases content.validate with
  | error e => rfl
  | ok =>
    dsimp only
    rw [run_bind, run_replace]
    cases hs : s.get? id <;> rfl

theorem run_delete (id : Uuid) (s : Store) :
    (delete id).run s =
      match s.get? id with
      | some _ => (.ok (), s.erase id)
      | none => (.error (.list (.unknown id)), s) := by
  unfold delete
  rw [run_bind, Operation.run_delete]
  cases hs : s.get? id with
  | some old => rfl
  | none => rw [Store.erase_of_absent hs]; rfl

theorem run_duplicate (fresh : Uuid) (now : Instant) (id : Uuid) (s : Store) :
    (duplicate fresh now id).run s =
      match s.get? id, s.get? fresh with
      | none, _ => (.error (.list (.unknown id)), s)
      | some _, some _ => (.error (.list (.alreadyExists fresh)), s)
      | some l, none =>
        (.ok { l with id := fresh, modified := now }, s.put { l with id := fresh, modified := now }) := by
  unfold duplicate copy?
  rw [run_bind, run_bind, Operation.run_get]
  cases s.get? id with
  | none => rfl
  | some l =>
    dsimp only
    cases hf : s.get? fresh with
    | some old => rw [run_bind, run_insert_of_used hf]
    | none => rw [run_bind, run_insert_of_unused hf]; rfl

theorem run_newScript (fresh : Uuid) (now : Instant) (id : Uuid) (name : String) (s : Store) :
    (newScript fresh now id name).run s =
      match scriptOfForm s id with
      | .error e => (.error e, s)
      | .ok script => (create fresh now name (.script script)).run s := by
  unfold newScript
  rw [run_bind, run_formScript]
  cases scriptOfForm s id <;> rfl

theorem run_replaceWithScript (now : Instant) (id : Uuid) (s : Store) :
    (replaceWithScript now id).run s =
      match scriptOfForm s id, found s id with
      | .error e, _ => (.error e, s)
      | .ok _, .error e => (.error e, s)
      | .ok script, .ok l => (update now id l.name (.script script)).run s := by
  unfold replaceWithScript
  rw [run_bind, run_formScript]
  cases scriptOfForm s id with
  | error e => rfl
  | ok script =>
    dsimp only
    rw [run_bind, run_get]
    cases found s id <;> rfl

end GridOutage.OutageList
