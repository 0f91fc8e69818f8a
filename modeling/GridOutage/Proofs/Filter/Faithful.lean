import GridOutage.CommandLine.PatternEngine
import GridOutage.Proofs.Filter.Accepted
import GridOutage.Proofs.Filter.Readability

/-!
# Scripts are faithful

A script determines the filter that it was made of. It is read back in three parts: the collection
up to its parenthesis, which gives the type; the guard, which gives the conditions but for the
bodies of country functions; and those bodies, which follow from the type and the two country
lists that the function is called with (`Determined.restored`). So two descriptions with the same
script compile to the same conditions (`conditions_eq_of_toScript`), whatever their patterns hold.
-/
namespace GridOutage.EquipmentType

theorem collection_injective {t u : EquipmentType} (h : t.collection.toList = u.collection.toList) :
    t = u := by
  have hcollection := String.toList_inj.1 h
  revert hcollection
  cases t <;> cases u <;> simp [collection]

theorem collection_chars (t : EquipmentType) : ∀ c ∈ t.collection.toList, c ≠ ')' := by
  cases t <;> simp [collection]

end GridOutage.EquipmentType

namespace GridOutage.Filter

namespace Condition

/-! ## Bodies of functions -/

/-- A condition without the body of the function that it calls. -/
def erased : Condition → Condition
  | .helper function s t _ => .helper function s t (.all [])
  | c => c

/-- A call with the body that the countries of a type have. -/
def restored (type : EquipmentType) : Condition → Condition
  | .helper _ s t _ => (countryCondition type s t).getD (.all [])
  | c => c

/-- A body is not written. -/
theorem erased_chars (c : Condition) : c.erased.chars = c.chars := by
  cases c <;> rfl

/-- A condition that its text and the type of the filter determine. -/
structure Determined (type : EquipmentType) (c : Condition) : Prop where
  plain : c.erased.Plain
  restored : c.erased.restored type = c

end Condition

open Condition

/-! ## The conditions of a filter -/

theorem conditionAt_plain (f : VoltageFilter) (p : MeasurePoint) : (f.conditionAt p).Plain := by
  cases f with
  | compare c b => exact .voltage p c b
  | range low high =>
    refine .all ?_ (Nat.le_refl 2)
    simp only [List.forall_mem_cons]
    exact ⟨.voltage _ _ _, .voltage _ _ _, List.forall_mem_nil _⟩

/-- Constraints at two ends are a disjunction of two parts. -/
theorem eitherEnd_eq_some {α : Type} {same : α → α → Bool} {place : α → MeasurePoint → Condition}
    (hplace : ∀ a p, (place a p).Plain) {p q : MeasurePoint} {a b : Option α} {c : Condition}
    (h : eitherEnd same place p q a b = some c) : c.Plain ∧ ∃ parts, c = .any parts := by
  have hpair {c d : Condition} (hc : c.Plain) (hd : d.Plain) : ∀ x ∈ [c, d], x.Plain := by
    simp only [List.forall_mem_cons]
    exact ⟨hc, hd, List.forall_mem_nil _⟩
  have hone (a : α) : (Condition.any [place a p, place a q]).Plain :=
    .any (hpair (hplace a p) (hplace a q)) (Nat.le_refl 2)
  unfold eitherEnd at h
  split at h
  · cases h
  · obtain rfl := Option.some.inj h
    exact ⟨hone _, _, rfl⟩
  · obtain rfl := Option.some.inj h
    exact ⟨hone _, _, rfl⟩
  · split at h
    · obtain rfl := Option.some.inj h
      exact ⟨hone _, _, rfl⟩
    · obtain rfl := Option.some.inj h
      refine ⟨.any (hpair ?_ ?_) (Nat.le_refl 2), _, rfl⟩
      · exact .all (hpair (hplace _ _) (hplace _ _)) (Nat.le_refl 2)
      · exact .all (hpair (hplace _ _) (hplace _ _)) (Nat.le_refl 2)

section

variable {type : EquipmentType} {c : Condition}

theorem voltageCondition_determined {f g : Option VoltageFilter}
    (h : voltageCondition type.shape f g = some c) : c.Determined type := by
  unfold voltageCondition at h
  split at h
  · next p _ =>
    obtain ⟨f, -, rfl⟩ := Option.map_eq_some_iff.1 h
    have hplain := conditionAt_plain f p
    cases f with
    | compare c b => exact ⟨hplain, rfl⟩
    | range low high => exact ⟨hplain, rfl⟩
  · obtain ⟨hplain, parts, rfl⟩ := eitherEnd_eq_some conditionAt_plain h
    exact ⟨hplain, rfl⟩

theorem identityCondition_determined {id name : Option String}
    (h : identityCondition id name = some c) : c.Determined type := by
  unfold identityCondition at h
  dsimp only at h
  split at h
  · cases h
  · obtain rfl := Option.some.inj h
    refine ⟨.any ?_ (Nat.le_refl 2), rfl⟩
    simp only [List.forall_mem_cons]
    exact ⟨.id _, .name _, List.forall_mem_nil _⟩

theorem countryFunction_mem {p q : MeasurePoint} (h : type.shape.points = .dual p q) :
    type.countryFunction ∈ countryFunctions := by
  cases type with
  | hvdcLine => exact List.mem_cons_self
  | line => exact List.mem_cons_of_mem _ List.mem_cons_self
  | twoWindingsTransformer => exact List.mem_cons_of_mem _ (List.mem_cons_of_mem _ List.mem_cons_self)
  | threeWindingsTransformer =>
    exact List.mem_cons_of_mem _ (List.mem_cons_of_mem _ List.mem_cons_self)
  | _ => cases h

theorem countryCondition_determined {s t : CountrySet} (h : countryCondition type s t = some c) :
    c.Determined type := by
  have hcondition := h
  unfold countryCondition at h
  split at h
  · obtain ⟨a, -, rfl⟩ := Option.map_eq_some_iff.1 h
    exact ⟨.located _ _, rfl⟩
  · next p q hpoints =>
    obtain ⟨body, -, rfl⟩ := Option.map_eq_some_iff.1 h
    refine ⟨.helper (countryFunction_mem hpoints) s t, ?_⟩
    change (countryCondition type s t).getD (.all []) = _
    rw [hcondition]
    rfl

end

theorem FilterSpec.conditions_determined (s : FilterSpec) :
    ∀ c ∈ s.compiled.conditions, c.Determined s.type := by
  intro c hc
  simp only [CompiledFilter.conditions, List.mem_append, Option.mem_toList] at hc
  rcases hc with (hc | hc) | hc
  · exact voltageCondition_determined hc
  · exact identityCondition_determined hc
  · exact countryCondition_determined hc

/-! ## Scripts -/

/-- A script is determined up to the bodies of functions: the collection ends at a parenthesis, and
so does the guard. -/
theorem script_injective {t u : EquipmentType} {cs ds : List Condition}
    (hcs : ∀ c ∈ cs, c.erased.Plain) (hds : ∀ d ∈ ds, d.erased.Plain)
    (h : script t.collection cs = script u.collection ds) :
    t = u ∧ cs.map erased = ds.map erased := by
  have hguard (cs : List Condition) : Condition.guard cs = Condition.guard (cs.map erased) := by
    simp [Condition.guard, Function.comp_def, erased_chars]
  have hplain {cs : List Condition} (hcs : ∀ c ∈ cs, c.erased.Plain) :
      ∀ c ∈ cs.map erased, c.Plain := by
    intro c hc
    obtain ⟨d, hd, rfl⟩ := List.mem_map.1 hc
    exact hcs d hd
  have hchars := String.ofList_inj.1 h
  unfold scriptChars at hchars
  simp only [List.append_assoc] at hchars
  have hloop := List.append_cancel_left hchars
  have hopen : ") \x7b\n    if (".toList = ')' :: " \x7b\n    if (".toList := by simp
  rw [hopen] at hloop
  obtain ⟨hcollection, hif⟩ := append_inj_of_stop t.collection_chars u.collection_chars (by simp)
    (by simp) hloop
  obtain ⟨-, hbody⟩ := List.cons.inj hif
  have hrest := List.append_cancel_left hbody
  generalize hclose :
    ") \x7b\n        contingency(equipment.id) \x7b equipments equipment.id \x7d\n    \x7d\n\x7d\n".toList =
      rest at hrest
  have hrestEq : rest = ')' :: rest.drop 1 := by
    subst hclose
    simp
  rw [hguard cs, hguard ds, hrestEq] at hrest
  obtain ⟨hlist, -⟩ := guard_append_inj (hplain hcs) (hplain hds) hrest
  exact ⟨EquipmentType.collection_injective hcollection, hlist⟩

theorem conditions_eq_of_toScript {s t : FilterSpec}
    (h : s.compiled.toScript = t.compiled.toScript) :
    s.type = t.type ∧ s.compiled.conditions = t.compiled.conditions := by
  have hs := s.conditions_determined
  have ht := t.conditions_determined
  have hscript : script s.type.collection s.compiled.conditions =
      script t.type.collection t.compiled.conditions := h
  obtain ⟨htype, herased⟩ := script_injective (fun c hc => (hs c hc).plain)
    (fun c hc => (ht c hc).plain) hscript
  -- What was erased is put back, which the type and the erased condition suffice for.
  have hback {u : FilterSpec} (hu : ∀ c ∈ u.compiled.conditions, c.Determined u.type) :
      (u.compiled.conditions.map erased).map (restored u.type) = u.compiled.conditions := by
    rw [List.map_map]
    exact (List.map_congr_left fun c hc => (hu c hc).restored).trans (List.map_id _)
  refine ⟨htype, ?_⟩
  rw [← hback hs, ← hback ht, herased, htype]

section

variable [PatternEngine]

/-- What a filter accepts depends on its type and its conditions. -/
theorem CompiledFilter.matching_congr {f g : CompiledFilter} (htype : f.type = g.type)
    (hconditions : f.conditions = g.conditions) (net : Network) : f.matching net = g.matching net := by
  unfold matching accepts
  rw [htype, hconditions]

/-- Accepted descriptions with the same script select the same elements of every network, in the
same order. -/
theorem matching_eq_of_toScript_eq {s t : FilterSpec} (hs : s.Accepted) (ht : t.Accepted)
    (h : s.toScript = t.toScript) :
    ∃ f g, s.compile = .ok f ∧ t.compile = .ok g ∧ ∀ net, f.matching net = g.matching net := by
  refine ⟨s.compiled, t.compiled, hs.compile, ht.compile, fun net => ?_⟩
  unfold FilterSpec.toScript at h
  rw [hs.compile, ht.compile] at h
  obtain ⟨htype, hconditions⟩ := conditions_eq_of_toScript (Except.ok.inj h)
  exact CompiledFilter.matching_congr htype hconditions net

end

/-- Lines with an end from 350 kilovolts, given as the first voltage. -/
def firstVoltage : FilterSpec :=
  (FilterSpec.withVoltage1 { type := .line } (.compare .greaterOrEqual (.ofInt 350))).withIdPattern
    "**"

/-- The same lines, given as the second voltage. A name does not matter where any identifier will
do. -/
def secondVoltage : FilterSpec :=
  (FilterSpec.withVoltage2 { type := .line }
    (.compare .greaterOrEqual (.ofInt 350))).withNamePattern "it's"

theorem matching_eq_of_toScript_eq_voltages :
    firstVoltage.Accepted ∧ secondVoltage.Accepted ∧
      firstVoltage.toScript = secondVoltage.toScript ∧
      ∃ f g, firstVoltage.compile = .ok f ∧ secondVoltage.compile = .ok g ∧
        ∀ net, f.matching net = g.matching net := by
  have hfirst : firstVoltage.Accepted :=
    .withIdPattern (.withVoltage1 (.new .line) (by decide +kernel)) _
  have hsecond : secondVoltage.Accepted :=
    .withNamePattern (.withVoltage2 (.new .line) (by decide +kernel)) _
  have hscript : firstVoltage.toScript = secondVoltage.toScript := by
    have hcompiled : firstVoltage.compiled = secondVoltage.compiled := rfl
    unfold FilterSpec.toScript
    rw [hfirst.compile, hsecond.compile, hcompiled]
  exact ⟨hfirst, hsecond, hscript, matching_eq_of_toScript_eq hfirst hsecond hscript⟩

end GridOutage.Filter
