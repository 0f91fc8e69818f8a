import GridOutage.Contingency
import GridOutage.Proofs.Outcome

/-!
# Assembling contingencies

When an element can be tripped, what a contingency is assembled from, and which error a list of
elements gives that cannot all be tripped: the one of its first element that carries topology only.

* `perElement_eq_ok_iff`, `perElement_eq_error_iff`: one contingency for each element.
* `assemble_eq_ok_iff`, `assemble_eq_error_iff`: one contingency for several.
-/
namespace GridOutage

open Outcome

/-! ## Sets of texts -/

namespace TextSet

theorem mem_ofList {xs : List String} {x : String} : x ∈ (ofList xs).members ↔ x ∈ xs := by
  have hfold : ∀ s : TextSet, x ∈ (xs.foldl insert s).members ↔ x ∈ s.members ∨ x ∈ xs := by
    induction xs with
    | nil => simp
    | cons y xs ih =>
      intro s
      rw [List.foldl_cons, ih, insert, mem_place, List.mem_cons]
      tauto
  rw [ofList, hfold]
  simp [empty]

theorem members_nodup (s : TextSet) : s.members.Nodup :=
  s.increasing.imp String.ne_of_lt

end TextSet

/-! ## Elements -/

namespace ElementKind

/-- A kind that only carries topology: no filter selects it and no contingency trips it. -/
def TopologyOnly (kind : ElementKind) : Prop := kind = .converterStation ∨ kind = .bus

theorem type?_eq_some_iff {kind : ElementKind} {type : EquipmentType} :
    kind.type? = some type ↔ kind = .equipment type := by
  cases kind <;> simp [type?]

theorem type?_eq_none_iff {kind : ElementKind} : kind.type? = none ↔ kind.TopologyOnly := by
  cases kind <;> simp [type?, TopologyOnly]

end ElementKind

namespace Outage

/-- The outage is that of the element. -/
def Of (a : Attributes) (o : Outage) : Prop := a.kind = .equipment o.type ∧ o.id = a.id

theorem ofAttributes_eq_ok_iff {a : Attributes} {o : Outage} : ofAttributes a = .ok o ↔ Of a o := by
  unfold ofAttributes Of
  cases h : a.kind.type? with
  | none =>
    obtain h | h := ElementKind.type?_eq_none_iff.1 h <;> simp [h]
  | some type =>
    rw [ElementKind.type?_eq_some_iff] at h
    rw [h, Except.ok.injEq, ElementKind.equipment.injEq]
    constructor
    · rintro rfl
      exact ⟨rfl, rfl⟩
    · intro ho
      obtain ⟨rfl, hid⟩ := ho
      rw [← hid]

theorem ofAttributes_eq_error_iff {a : Attributes} {e : Error} :
    ofAttributes a = .error e ↔ a.kind.TopologyOnly ∧ e = .notTrippable a.id a.kind := by
  rw [← ElementKind.type?_eq_none_iff]
  unfold ofAttributes
  cases a.kind.type? with
  | none => simp [eq_comm]
  | some type => simp

end Outage

namespace Contingency

/-! ## One contingency -/

theorem assemble_eq_ok_iff {id : Option String} {matched : List Attributes}
    {requested : List String} {c : Contingency} :
    assemble id matched requested = .ok c ↔
      c.id = id ∧ List.Forall₂ Outage.Of matched c.elements ∧
        c.missing = .ofList (requested.filter fun id => !matched.any (·.id == id)) := by
  unfold assemble
  rw [bind_eq_ok_iff]
  simp only [mapM_eq_ok_iff, Outage.ofAttributes_eq_ok_iff]
  constructor
  · intro h
    obtain ⟨elements, helements, h⟩ := h
    obtain rfl := Except.ok.inj h
    exact ⟨rfl, helements, rfl⟩
  · intro h
    obtain ⟨hid, helements, hmissing⟩ := h
    refine ⟨c.elements, helements, congrArg Except.ok ?_⟩
    rw [← hid, ← hmissing]

theorem assemble_eq_error_iff {id : Option String} {matched : List Attributes}
    {requested : List String} {e : Error} :
    assemble id matched requested = .error e ↔
      ∃ a, First (fun a => a.kind.TopologyOnly) matched a ∧ e = .notTrippable a.id a.kind := by
  have hmapM : assemble id matched requested = .error e ↔
      matched.mapM Outage.ofAttributes = .error e := by
    unfold assemble
    cases matched.mapM Outage.ofAttributes <;> simp [bind, Except.bind, pure, Except.pure]
  rw [hmapM, mapM_eq_error_iff_of fun _ _ => Outage.ofAttributes_eq_error_iff]

/-! ## One contingency for each element -/

/-- The contingency of a single outage, named after its element. -/
def ofOutage (o : Outage) : Contingency := { id := some o.id, elements := [o] }

/-- The contingency trips the element and nothing else. -/
def Trips (a : Attributes) (c : Contingency) : Prop := ∃ o, Outage.Of a o ∧ c = ofOutage o

theorem assemble_single_eq_ok_iff {a : Attributes} {c : Contingency} :
    assemble (some a.id) [a] [] = .ok c ↔ Trips a c := by
  rw [assemble_eq_ok_iff]
  constructor
  · intro h
    obtain ⟨id, elements, missing⟩ := c
    obtain ⟨hid, helements, hmissing⟩ := h
    obtain ⟨o, rest, ho, hrest, rfl⟩ := List.forall₂_cons_left_iff.1 helements
    obtain rfl := List.forall₂_nil_left_iff.1 hrest
    refine ⟨o, ho, ?_⟩
    obtain rfl : id = some a.id := hid
    obtain rfl : missing = .empty := hmissing
    rw [ofOutage, ho.2]
  · intro h
    obtain ⟨o, ho, rfl⟩ := h
    exact ⟨congrArg some ho.2, .cons ho .nil, rfl⟩

theorem perElement_eq_ok_iff {matched : List Attributes} {cs : List Contingency} :
    perElement matched = .ok cs ↔ List.Forall₂ Trips matched cs := by
  simp only [perElement, mapM_eq_ok_iff, assemble_single_eq_ok_iff]

theorem perElement_eq_error_iff {matched : List Attributes} {e : Error} :
    perElement matched = .error e ↔
      ∃ a, First (fun a => a.kind.TopologyOnly) matched a ∧ e = .notTrippable a.id a.kind := by
  have herror : ∀ (a : Attributes) (e : Error), assemble (some a.id) [a] [] = .error e ↔
      a.kind.TopologyOnly ∧ e = .notTrippable a.id a.kind := by
    intro a e
    rw [assemble_eq_error_iff]
    constructor
    · intro h
      obtain ⟨b, hb, he⟩ := h
      obtain ⟨hmem, hkind⟩ := hb.holds
      obtain rfl := List.mem_singleton.1 hmem
      exact ⟨hkind, he⟩
    · intro h
      exact ⟨a, .here h.1, h.2⟩
  rw [perElement, mapM_eq_error_iff_of herror]

end Contingency

end GridOutage
