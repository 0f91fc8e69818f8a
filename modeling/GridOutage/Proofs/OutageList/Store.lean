import GridOutage.OutageList.Store
import Mathlib.Logic.Basic

/-!
# What the store keeps apart

Looking up is the view of a store that the operations are described by: `put` changes what one
identifier leads to, `erase` takes it away, and every other identifier leads where it led before
(`AgreesOff`).

* `forall_get?_put`, `forall_get?_erase`, `forall_get?_ofLists`: what is true of every stored list
  stays true where it is of the list that is put, and it is true of a store that is made of such.
* `Keyed`: every list is stored under its own identifier.
* `LastWith`: of lists with one identifier, the one that a store made of them keeps.
* `Adds`, `Replaces`, `Removes`: the three ways in which a store may differ from an earlier one.
-/
namespace GridOutage.Store

/-! ## Looking up after a change -/

theorem lookup_filter_ne (entries : List (Uuid × OutageList)) (id other : Uuid) :
    (entries.filter fun e => e.1 != id).lookup other =
      if other = id then none else entries.lookup other := by
  induction entries with
  | nil => simp
  | cons e entries ih =>
    by_cases he : e.1 = id
    · -- The entry is taken away, and it answers no other identifier.
      rw [List.filter_cons_of_neg (by simp [he]), ih]
      split
      · rfl
      · next hne => rw [List.lookup_cons, beq_eq_false_iff_ne.2 (he ▸ hne)]
    · rw [List.filter_cons_of_pos (by simp [he]), List.lookup_cons, List.lookup_cons, ih]
      by_cases ho : other = e.1
      · simp [ho, he]
      · rw [beq_eq_false_iff_ne.2 ho]

theorem get?_erase (s : Store) (id other : Uuid) :
    (s.erase id).get? other = if other = id then none else s.get? other :=
  lookup_filter_ne s.entries id other

theorem get?_put (s : Store) (l : OutageList) (other : Uuid) :
    (s.put l).get? other = if other = l.id then some l else s.get? other := by
  by_cases h : other = l.id
  · simp [get?, put, h]
  · have hb : (other == l.id) = false := beq_eq_false_iff_ne.2 h
    rw [if_neg h, get?, put, List.lookup_cons, hb]
    exact (get?_erase s l.id other).trans (if_neg h)

theorem get?_put_self (s : Store) (l : OutageList) : (s.put l).get? l.id = some l :=
  (get?_put s l l.id).trans (if_pos rfl)

/-- Nothing is taken away where nothing is stored. -/
theorem erase_of_absent {s : Store} {id : Uuid} (h : s.get? id = none) : s.erase id = s := by
  have hkeys : ∀ e ∈ s.entries, (e.1 != id) = true := by
    intro e he
    rw [bne_iff_ne]
    intro hid
    simpa [hid] using List.lookup_eq_none_iff.1 h e he
  have hentries : (s.erase id).entries = s.entries := List.filter_eq_self.2 hkeys
  cases s
  simpa [erase] using hentries

/-! ## What holds of every stored list -/

section

variable {P : Uuid → OutageList → Prop} {s : Store}

theorem forall_get?_put (h : ∀ id l, s.get? id = some l → P id l) {l : OutageList} (hl : P l.id l) :
    ∀ id l', (s.put l).get? id = some l' → P id l' := by
  intro id l' hl'
  rw [get?_put] at hl'
  split at hl'
  · next hid =>
    rw [hid, ← Option.some.inj hl']
    exact hl
  · exact h id l' hl'

theorem forall_get?_erase (h : ∀ id l, s.get? id = some l → P id l) (id : Uuid) :
    ∀ other l, (s.erase id).get? other = some l → P other l := by
  intro other l hl
  rw [get?_erase] at hl
  split at hl
  · cases hl
  · exact h other l hl

theorem forall_get?_ofLists {ls : List OutageList} (h : ∀ l ∈ ls, P l.id l) :
    ∀ id l, (ofLists ls).get? id = some l → P id l := by
  have hfold : ∀ s : Store, (∀ id l, s.get? id = some l → P id l) →
      ∀ id l, (ls.foldl put s).get? id = some l → P id l := by
    induction ls with
    | nil => exact fun s hs => hs
    | cons l ls ih =>
      obtain ⟨hl, hls⟩ := List.forall_mem_cons.1 h
      exact fun s hs => ih hls _ (forall_get?_put hs hl)
  refine hfold empty ?_
  intro id l hl
  cases hl

end

/-- Every list is stored under its own identifier. -/
def Keyed (s : Store) : Prop := ∀ id l, s.get? id = some l → l.id = id

theorem Keyed.put {s : Store} (h : s.Keyed) (l : OutageList) : (s.put l).Keyed :=
  forall_get?_put h rfl

theorem Keyed.erase {s : Store} (h : s.Keyed) (id : Uuid) : (s.erase id).Keyed :=
  forall_get?_erase h id

theorem keyed_ofLists (ls : List OutageList) : (ofLists ls).Keyed :=
  forall_get?_ofLists fun _ _ => rfl

/-! ## Stores of lists -/

/-- The last of the lists that have an identifier. -/
def LastWith (id : Uuid) (ls : List OutageList) (l : OutageList) : Prop :=
  ∃ front back, ls = front ++ l :: back ∧ l.id = id ∧ ∀ l' ∈ back, l'.id ≠ id

theorem LastWith.mem {id : Uuid} {ls : List OutageList} {l : OutageList} (h : LastWith id ls l) :
    l ∈ ls := by
  obtain ⟨front, back, rfl, -⟩ := h
  exact List.mem_append_right _ List.mem_cons_self

theorem LastWith.id_eq {id : Uuid} {ls : List OutageList} {l : OutageList} (h : LastWith id ls l) :
    l.id = id := by
  obtain ⟨_, _, _, hid, -⟩ := h
  exact hid

theorem exists_lastWith {id : Uuid} {ls : List OutageList} (h : ∃ l ∈ ls, l.id = id) :
    ∃ l, LastWith id ls l := by
  induction ls with
  | nil =>
    obtain ⟨l, hl, _⟩ := h
    cases hl
  | cons l ls ih =>
    by_cases hlater : ∃ l' ∈ ls, l'.id = id
    · obtain ⟨l', front, back, rfl, hlast⟩ := ih hlater
      exact ⟨l', l :: front, back, rfl, hlast⟩
    · have hnone : ∀ l' ∈ ls, l'.id ≠ id := fun l' hl' hid => hlater ⟨l', hl', hid⟩
      obtain ⟨l', hl', hid⟩ := h
      rcases List.mem_cons.1 hl' with rfl | hl'
      · exact ⟨l', [], ls, rfl, hid, hnone⟩
      · exact absurd hid (hnone l' hl')

theorem get?_foldl_put {id : Uuid} {ls : List OutageList} (h : ∀ l ∈ ls, l.id ≠ id) (s : Store) :
    (ls.foldl put s).get? id = s.get? id := by
  induction ls generalizing s with
  | nil => rfl
  | cons l ls ih =>
    obtain ⟨hl, hls⟩ := List.forall_mem_cons.1 h
    rw [List.foldl_cons, ih hls, get?_put, if_neg hl.symm]

/-- Of lists with one identifier the last is stored. -/
theorem get?_ofLists {id : Uuid} {ls : List OutageList} {l : OutageList} (h : LastWith id ls l) :
    (ofLists ls).get? id = some l := by
  obtain ⟨front, back, rfl, rfl, hback⟩ := h
  rw [ofLists, List.foldl_append, List.foldl_cons, get?_foldl_put hback, get?_put_self]

/-! ## One list more, another or less -/

/-- Every identifier but one leads where it led before. -/
def AgreesOff (id : Uuid) (s after : Store) : Prop :=
  ∀ other, other ≠ id → after.get? other = s.get? other

/-- The later store has one list more, under an identifier that was not in use. -/
structure Adds (l : OutageList) (s after : Store) : Prop where
  unused : s.get? l.id = none
  stored : after.get? l.id = some l
  others : AgreesOff l.id s after

/-- The later store has a list in the place of the one that had its identifier. -/
structure Replaces (l : OutageList) (s after : Store) : Prop where
  used : ∃ old, s.get? l.id = some old
  stored : after.get? l.id = some l
  others : AgreesOff l.id s after

/-- The later store lacks the list of an identifier. -/
structure Removes (id : Uuid) (s after : Store) : Prop where
  used : ∃ old, s.get? id = some old
  gone : after.get? id = none
  others : AgreesOff id s after

theorem agreesOff_put (s : Store) (l : OutageList) : AgreesOff l.id s (s.put l) :=
  fun other h => (get?_put s l other).trans (if_neg h)

theorem agreesOff_erase (s : Store) (id : Uuid) : AgreesOff id s (s.erase id) :=
  fun other h => (get?_erase s id other).trans (if_neg h)

theorem adds_put {s : Store} {l : OutageList} (h : s.get? l.id = none) : Adds l s (s.put l) :=
  ⟨h, get?_put_self s l, agreesOff_put s l⟩

theorem replaces_put {s : Store} {l old : OutageList} (h : s.get? l.id = some old) :
    Replaces l s (s.put l) :=
  ⟨⟨old, h⟩, get?_put_self s l, agreesOff_put s l⟩

theorem removes_erase {s : Store} {id : Uuid} {old : OutageList} (h : s.get? id = some old) :
    Removes id s (s.erase id) :=
  ⟨⟨old, h⟩, (get?_erase s id id).trans (if_pos rfl), agreesOff_erase s id⟩

end GridOutage.Store
