import GridOutage.Proofs.Filter.Selection
import Mathlib.Data.Set.Basic

/-!
# Comparisons beside one another

What one comparison with a bound selects is put together of what others select, up to the tolerance
of equality. The orders are exact and so are ranges, but a voltage just below a bound is equal to it
without being at least as high.

* `operators_coherent`: what is greater or equal in two steps is so in one, or it is near the bound
  and below it; what is equal is in the range of one point, or it is near that point. Where no other
  voltage is near the bound nothing is set apart.
* `tolerance_sets_apart`: of two generators around 90 kilovolts both are equal to that, neither is
  in its range, and each is missed by one of the orders.
-/
namespace GridOutage.Filter

open Network (Step Terminal)

/-! ## Voltages -/

/-- The difference from a bound, rounded, is within the tolerance. -/
def Near (v b : Binary64) : Prop := (v.sub b).abs.le tolerance = true

instance (v b : Binary64) : Decidable (Near v b) := inferInstanceAs (Decidable (_ = true))

theorem Near.ne_nan {v b : Binary64} (h : Near v b) : v ≠ .nan ∧ b ≠ .nan := by
  refine ⟨?_, ?_⟩
  · rintro rfl
    cases h
  · rintro rfl
    cases v <;> cases h

theorem near_of_same {v b : Binary64} (hb : b.isFinite = true) (h : v.same b = true) :
    Near v b := by
  unfold Near
  rw [Binary64.sub_same hb h]
  decide +kernel

/-- The voltages near a bound are those below it, that at it and those above it. -/
theorem near_iff {v b : Binary64} (hb : b.isFinite = true) :
    Near v b ↔ v.same b = true ∨ Near v b ∧ v.lt b = true ∨ Near v b ∧ b.lt v = true := by
  constructor
  · intro h
    rcases Binary64.lt_or_same_or_lt h.ne_nan.1 h.ne_nan.2 with hlt | hsame | hgt
    · exact .inr (.inl ⟨h, hlt⟩)
    · exact .inl hsame
    · exact .inr (.inr ⟨h, hgt⟩)
  · rintro (hsame | ⟨h, -⟩ | ⟨h, -⟩)
    · exact near_of_same hb hsame
    · exact h
    · exact h

namespace VoltageFilter

/-- The filters that compare with a bound, and the range of that one point. -/
def around (b : Binary64) : List VoltageFilter :=
  Comparison.all.map (.compare · b) ++ [.range b b]

section

variable {b : Binary64} (hb : b.isFinite = true)

include hb

theorem validate_around : ∀ f ∈ around b, f.validate = .ok () := by
  intro f hf
  rw [validate_eq_ok_iff]
  rcases List.mem_append.1 hf with hf | hf
  · obtain ⟨c, -, rfl⟩ := List.mem_map.1 hf
    exact hb
  · obtain rfl := List.mem_singleton.1 hf
    exact ⟨hb, hb, Binary64.le_iff_lt_or_same.2 (.inr (Binary64.same_self hb))⟩

theorem admits_greater_or_equal (v : Binary64) :
    (compare .greaterThan b).Admits v ∨ (compare .equal b).Admits v ↔
      (compare .greaterOrEqual b).Admits v ∨ Near v b ∧ v.lt b = true := by
  change b.lt v = true ∨ Near v b ↔ b.le v = true ∨ Near v b ∧ v.lt b = true
  rw [Binary64.le_iff_lt_or_same, Binary64.same_comm, near_iff hb]
  tauto

theorem admits_less_or_equal (v : Binary64) :
    (compare .lessThan b).Admits v ∨ (compare .equal b).Admits v ↔
      (compare .lessOrEqual b).Admits v ∨ Near v b ∧ b.lt v = true := by
  change v.lt b = true ∨ Near v b ↔ v.le b = true ∨ Near v b ∧ b.lt v = true
  rw [Binary64.le_iff_lt_or_same, near_iff hb]
  tauto

theorem admits_equal (v : Binary64) :
    (compare .equal b).Admits v ↔ (range b b).Admits v ∨ Near v b ∧ v.same b = false := by
  have hpoint : (range b b).Admits v ↔ v.same b = true := by
    rw [Admits, Binary64.same, Bool.and_eq_true, and_comm]
  change Near v b ↔ (range b b).Admits v ∨ Near v b ∧ v.same b = false
  rw [hpoint]
  cases hsame : v.same b with
  | true => simpa using near_of_same hb hsame
  | false => simp

end

end VoltageFilter

/-! ## Elements -/

/-- The positions of what the description of a type with one voltage filter selects. -/
def selection [PatternEngine] (net : Network) (type : EquipmentType) (f : VoltageFilter) :
    Set Nat :=
  {i | ∃ c, (FilterSpec.withVoltage1 { type := type } f).compile = .ok c ∧ c.accepts net i = true}

/-- The terminals that filters look at. -/
def Ends.terminals : Ends → List Terminal
  | .single t => [t]
  | .pair t u => [t, u]

/-- The positions of the elements of a type that have a voltage with a property at one of their
ends. -/
def atSomeEnd (net : Network) (type : EquipmentType) (p : Binary64 → Prop) : Set Nat :=
  {i | ∃ e ends, net.equipmentAt? i = some e ∧ e.kind = .equipment type ∧ HasEnds net i type ends ∧
    ∃ t ∈ ends.terminals, ∃ v, net.nominalVoltage? t = some v ∧ p v}

section

variable {net : Network} {type : EquipmentType}

theorem atSomeEnd_or (p q : Binary64 → Prop) :
    atSomeEnd net type (fun v => p v ∨ q v) = atSomeEnd net type p ∪ atSomeEnd net type q := by
  ext i
  constructor
  · rintro ⟨e, ends, he, hk, hends, t, ht, v, hv, hp | hq⟩
    · exact .inl ⟨e, ends, he, hk, hends, t, ht, v, hv, hp⟩
    · exact .inr ⟨e, ends, he, hk, hends, t, ht, v, hv, hq⟩
  · rintro (⟨e, ends, he, hk, hends, t, ht, v, hv, hp⟩ | ⟨e, ends, he, hk, hends, t, ht, v, hv, hq⟩)
    · exact ⟨e, ends, he, hk, hends, t, ht, v, hv, .inl hp⟩
    · exact ⟨e, ends, he, hk, hends, t, ht, v, hv, .inr hq⟩

theorem atSomeEnd_eq_empty {p : Binary64 → Prop}
    (h : ∀ l, .voltageLevel l ∈ net.nodes → ¬ p l.nominal) : atSomeEnd net type p = ∅ := by
  apply Set.eq_empty_of_forall_notMem
  rintro i ⟨e, ends, -, -, -, t, -, v, hv, hp⟩
  obtain ⟨l, hl, rfl⟩ := Option.map_eq_some_iff.1 hv
  obtain ⟨node, hnode, hlevel⟩ := Option.bind_eq_some_iff.1 hl
  cases node with
  | substation s => cases hlevel
  | voltageLevel l' =>
    obtain rfl := Option.some.inj hlevel
    exact h l' (List.mem_of_getElem? hnode) hp
  | equipment e => cases hlevel

/-- A single filter holds at some end, be there one or two. -/
theorem holdAtEnds_one_iff {f : VoltageFilter} {ends : Ends} :
    HoldAtEnds (fun f g => f.same g = true) (VoltageFilter.HoldsAt net) ends (some f) none ↔
      ∃ t ∈ ends.terminals, f.HoldsAt net t := by
  cases ends with
  | single t => simp [HoldAtEnds, Ends.terminals]
  | pair t u => simp [HoldAtEnds, Ends.terminals]

section

variable [PatternEngine]

theorem mem_selection_iff {i : Nat} {f : VoltageFilter} (hf : f.validate = .ok ()) :
    i ∈ selection net type f ↔
      (FilterSpec.withVoltage1 { type := type } f).compiled.accepts net i = true := by
  have haccepted : (FilterSpec.withVoltage1 { type := type } f).Accepted :=
    .withVoltage1 (.new type) hf
  rw [selection, Set.mem_ofPred_eq, haccepted.compile]
  simp

/-- Of identity and countries nothing is asked, so what is left is a test of the ends. -/
theorem selection_eq {log : List Step} (hnet : net.Built log) {f : VoltageFilter}
    (hf : f.validate = .ok ()) : selection net type f = atSomeEnd net type f.Admits := by
  have hidentity (i : Nat) (e : Equipment) : Met net i e (identityCondition none none) :=
    identity_met_iff_patterns.2 (.inl (by decide))
  have hcountry (ends : Ends) : HoldAtEnds (fun a b => ∀ c, c ∈ a.members ↔ c ∈ b.members)
      (InCountries net) ends (givenCountries .empty) (givenCountries .empty) := by
    cases ends with
    | single t => exact fun x hx => by cases hx
    | pair t u => trivial
  ext i
  rw [mem_selection_iff hf, accepts_iff_ends hnet]
  constructor
  · rintro ⟨e, ends, he, hk, hends, hvoltage, -, -⟩
    obtain ⟨t, ht, v, hv, hadmits⟩ := holdAtEnds_one_iff.1 hvoltage
    exact ⟨e, ends, he, hk, hends, t, ht, v, hv, hadmits⟩
  · rintro ⟨e, ends, he, hk, hends, t, ht, v, hv, hadmits⟩
    exact ⟨e, ends, he, hk, hends, holdAtEnds_one_iff.2 ⟨t, ht, v, hv, hadmits⟩, hidentity i e,
      hcountry ends⟩

/-- Two filters select together what a third does and what has a property, if they admit together
what it does and what has the property. -/
theorem selection_union_eq (type : EquipmentType) {log : List Step} (hnet : net.Built log)
    {f g h : VoltageFilter} {p : Binary64 → Prop} (hf : f.validate = .ok ())
    (hg : g.validate = .ok ()) (hh : h.validate = .ok ())
    (hadmits : ∀ v, f.Admits v ∨ g.Admits v ↔ h.Admits v ∨ p v) :
    selection net type f ∪ selection net type g = selection net type h ∪ atSomeEnd net type p := by
  rw [selection_eq hnet hf, selection_eq hnet hg, selection_eq hnet hh, ← atSomeEnd_or,
    ← atSomeEnd_or]
  simp only [hadmits]

end

end

/-! ## Comparisons with one bound -/

/-- What the comparisons with a bound select is what its name says: greater or equal is greater, or
equal, and a range of one point is that point. -/
structure Coherent (selects : VoltageFilter → Set Nat) (b : Binary64) : Prop where
  greaterOrEqual : selects (.compare .greaterOrEqual b) =
    selects (.compare .greaterThan b) ∪ selects (.compare .equal b)
  lessOrEqual : selects (.compare .lessOrEqual b) =
    selects (.compare .lessThan b) ∪ selects (.compare .equal b)
  point : selects (.range b b) = selects (.compare .equal b)

/-- The descriptions that compare with a bound, or ask for the range of that point, compile. Greater
or equal in two steps is greater or equal in one, or below the bound and near it; less or equal
likewise; and equal is in the range of the point, or near it and not there. So the comparisons are
coherent where no voltage of the network is near the bound without being at it. -/
theorem operators_coherent [PatternEngine] (type : EquipmentType) {b : Binary64}
    (hb : b.isFinite = true) :
    (∀ f ∈ VoltageFilter.around b,
      ∃ c, (FilterSpec.withVoltage1 { type := type } f).compile = .ok c) ∧
    ∀ steps : List Step,
      selection (Network.run steps) type (.compare .greaterThan b) ∪
          selection (Network.run steps) type (.compare .equal b) =
        selection (Network.run steps) type (.compare .greaterOrEqual b) ∪
          atSomeEnd (Network.run steps) type (fun v => Near v b ∧ v.lt b = true) ∧
      selection (Network.run steps) type (.compare .lessThan b) ∪
          selection (Network.run steps) type (.compare .equal b) =
        selection (Network.run steps) type (.compare .lessOrEqual b) ∪
          atSomeEnd (Network.run steps) type (fun v => Near v b ∧ b.lt v = true) ∧
      selection (Network.run steps) type (.compare .equal b) =
        selection (Network.run steps) type (.range b b) ∪
          atSomeEnd (Network.run steps) type (fun v => Near v b ∧ v.same b = false) ∧
      ((∀ l, .voltageLevel l ∈ (Network.run steps).nodes → Near l.nominal b →
          l.nominal.same b = true) →
        Coherent (selection (Network.run steps) type) b) := by
  have hvalid := VoltageFilter.validate_around hb
  have hcompare (c : Comparison) : (VoltageFilter.compare c b).validate = .ok () := by
    refine hvalid _ (List.mem_append_left _ (List.mem_map_of_mem ?_))
    cases c <;> decide
  have hrange : (VoltageFilter.range b b).validate = .ok () :=
    hvalid _ (List.mem_append_right _ (List.mem_singleton_self _))
  refine ⟨fun f hf => ⟨_, (FilterSpec.Accepted.withVoltage1 (.new type) (hvalid f hf)).compile⟩, ?_⟩
  intro steps
  have hnet := Network.built_run steps
  have hgreater := selection_union_eq type hnet (hcompare .greaterThan) (hcompare .equal)
    (hcompare .greaterOrEqual) (VoltageFilter.admits_greater_or_equal hb)
  have hless := selection_union_eq type hnet (hcompare .lessThan) (hcompare .equal)
    (hcompare .lessOrEqual) (VoltageFilter.admits_less_or_equal hb)
  have hequal := selection_union_eq type hnet (hcompare .equal) (hcompare .equal) hrange
    fun v => (or_self_iff.trans (VoltageFilter.admits_equal hb v))
  rw [Set.union_self] at hequal
  refine ⟨hgreater, hless, hequal, fun hat => ?_⟩
  have hnone (p : Binary64 → Prop) (hp : ∀ v, p v → Near v b ∧ v.same b = false) :
      atSomeEnd (Network.run steps) type p = ∅ := by
    apply atSomeEnd_eq_empty
    intro l hl hpl
    obtain ⟨hnear, hsame⟩ := hp _ hpl
    rw [hat l hl hnear] at hsame
    cases hsame
  refine ⟨?_, ?_, ?_⟩
  · rw [hgreater, hnone _ fun v hv => ⟨hv.1, Binary64.same_eq_false_of_lt hv.2⟩, Set.union_empty]
  · rw [hless, hnone _ fun v hv => ⟨hv.1, ?_⟩, Set.union_empty]
    rw [Binary64.same_comm, Binary64.same_eq_false_of_lt hv.2]
  · rw [hequal, hnone _ fun v hv => hv, Set.union_empty]

/-- Two generators, one of them a tenth of the tolerance below 90 kilovolts, the other as much
above. -/
def aroundNinety : List Step :=
  [.substation { id := "S" },
    .voltageLevel "S" { id := "LOW", nominal := .ofDecimal false 899999999999 (-10) },
    .voltageLevel "S" { id := "HIGH", nominal := .ofDecimal false 900000000001 (-10) },
    .equipment { id := "G1", kind := .equipment .generator } ["LOW"],
    .equipment { id := "G2", kind := .equipment .generator } ["HIGH"]]

/-- Around 90 kilovolts the first generator is selected as equal and not as greater or equal, and
around 100 kilovolts nothing is set apart. -/
theorem operators_coherent_generators :
    (Binary64.ofInt 90).isFinite = true ∧ (Binary64.ofInt 100).isFinite = true ∧
      3 ∈ selection (Network.run aroundNinety) .generator (.compare .equal (.ofInt 90)) ∧
      Coherent (selection (Network.run aroundNinety) .generator) (.ofInt 100) := by
  have hninety : (Binary64.ofInt 90).isFinite = true := by decide +kernel
  have hhundred : (Binary64.ofInt 100).isFinite = true := by decide +kernel
  obtain ⟨-, hnear⟩ := operators_coherent .generator hninety
  obtain ⟨-, hfar⟩ := operators_coherent .generator hhundred
  obtain ⟨-, -, hequal, -⟩ := hnear aroundNinety
  obtain ⟨-, -, -, hcoherent⟩ := hfar aroundNinety
  refine ⟨hninety, hhundred, ?_, hcoherent ?_⟩
  · -- Its one terminal is at the lower of the two voltages.
    have hend : 3 ∈ atSomeEnd (Network.run aroundNinety) .generator
        (fun v => Near v (.ofInt 90) ∧ v.same (.ofInt 90) = false) :=
      ⟨{ id := "G1", kind := .equipment .generator }, .single ⟨.one, 1⟩, by decide +kernel, rfl,
        .injection (by decide) (by decide +kernel), _, List.mem_singleton_self _,
        .ofDecimal false 899999999999 (-10), by decide +kernel, by decide +kernel⟩
    rw [hequal]
    exact .inr hend
  · have hlevels : ∀ node ∈ (Network.run aroundNinety).nodes, ∀ l ∈ node.voltageLevel?,
        ¬ Near l.nominal (.ofInt 100) := by decide +kernel
    intro l hl hnear
    exact absurd hnear (hlevels _ hl l rfl)

/-- Each of the three ways in which the comparisons are said by one another fails for the two
generators. -/
theorem tolerance_sets_apart :
    (Binary64.ofInt 90).isFinite = true ∧
      selection (Network.run aroundNinety) .generator (.compare .greaterOrEqual (.ofInt 90)) ≠
        selection (Network.run aroundNinety) .generator (.compare .greaterThan (.ofInt 90)) ∪
          selection (Network.run aroundNinety) .generator (.compare .equal (.ofInt 90)) ∧
      selection (Network.run aroundNinety) .generator (.compare .lessOrEqual (.ofInt 90)) ≠
        selection (Network.run aroundNinety) .generator (.compare .lessThan (.ofInt 90)) ∪
          selection (Network.run aroundNinety) .generator (.compare .equal (.ofInt 90)) ∧
      selection (Network.run aroundNinety) .generator (.range (.ofInt 90) (.ofInt 90)) ≠
        selection (Network.run aroundNinety) .generator (.compare .equal (.ofInt 90)) := by
  have hvalid := VoltageFilter.validate_around (b := .ofInt 90) (by decide +kernel)
  have hlow : 3 ∈ selection (Network.run aroundNinety) .generator (.compare .equal (.ofInt 90)) :=
    (mem_selection_iff (hvalid _ (by decide +kernel))).2 (by decide +kernel)
  have hhigh : 4 ∈ selection (Network.run aroundNinety) .generator (.compare .equal (.ofInt 90)) :=
    (mem_selection_iff (hvalid _ (by decide +kernel))).2 (by decide +kernel)
  refine ⟨by decide +kernel, fun h => ?_, fun h => ?_, fun h => ?_⟩
  · have hmem : 3 ∈ selection (Network.run aroundNinety) .generator
        (.compare .greaterOrEqual (.ofInt 90)) := h ▸ .inr hlow
    rw [mem_selection_iff (hvalid _ (by decide +kernel))] at hmem
    revert hmem
    decide +kernel
  · have hmem : 4 ∈ selection (Network.run aroundNinety) .generator
        (.compare .lessOrEqual (.ofInt 90)) := h ▸ .inr hhigh
    rw [mem_selection_iff (hvalid _ (by decide +kernel))] at hmem
    revert hmem
    decide +kernel
  · rw [← h, mem_selection_iff (hvalid _ (by decide +kernel))] at hlow
    revert hlow
    decide +kernel

end GridOutage.Filter
