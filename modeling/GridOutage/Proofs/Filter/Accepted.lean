import GridOutage.Filter.Compile
import GridOutage.Proofs.Binary64.Order
import GridOutage.Proofs.Outcome

/-!
# Accepted descriptions

A program holds a filter description because it decoded one or because it built one from valid
voltage filters. `Accepted` is that origin; what every accepted description has is `validate`,
so that it compiles (`Accepted.compile`).
-/
namespace GridOutage.Filter

open Outcome

namespace FilterSpec

/-- How a description comes about. -/
inductive Accepted : FilterSpec → Prop
  | decoded {r : FilterRecord} {s : FilterSpec} (h : ofRecord r = .ok s) : Accepted s
  | new (type : EquipmentType) : Accepted { type := type }
  | withIdPattern {s : FilterSpec} (h : Accepted s) (p : String) : Accepted (s.withIdPattern p)
  | withNamePattern {s : FilterSpec} (h : Accepted s) (p : String) : Accepted (s.withNamePattern p)
  | withVoltage1 {s : FilterSpec} (h : Accepted s) {f : VoltageFilter} (hf : f.validate = .ok ()) :
      Accepted (s.withVoltage1 f)
  | withVoltage2 {s : FilterSpec} (h : Accepted s) {f : VoltageFilter} (hf : f.validate = .ok ()) :
      Accepted (s.withVoltage2 f)
  | withCountries1 {s : FilterSpec} (h : Accepted s) (cs : CountrySet) :
      Accepted (s.withCountries1 cs)
  | withCountries2 {s : FilterSpec} (h : Accepted s) (cs : CountrySet) :
      Accepted (s.withCountries2 cs)

/-- The filter that a description with valid voltage filters compiles to. -/
def compiled (s : FilterSpec) : CompiledFilter where
  type := s.type
  voltage := voltageCondition s.type.shape s.voltage1 s.voltage2
  identity := identityCondition s.idPattern s.namePattern
  country := countryCondition s.type s.countries1 s.countries2

theorem validate_eq_ok_iff {s : FilterSpec} :
    s.validate = .ok () ↔ (∀ f ∈ s.voltage1, f.validate = .ok ()) ∧
      ∀ f ∈ s.voltage2, f.validate = .ok () := by
  rw [validate, forM_eq_ok_iff]
  simp [List.mem_append, or_imp, forall_and]

theorem compile_eq_ok_iff {s : FilterSpec} {f : CompiledFilter} :
    s.compile = .ok f ↔ s.validate = .ok () ∧ f = s.compiled := by
  rw [compile, bind_eq_ok_iff]
  constructor
  · intro h
    obtain ⟨⟨⟩, hv, h⟩ := h
    exact ⟨hv, (Except.ok.inj h).symm⟩
  · intro h
    obtain ⟨hv, rfl⟩ := h
    exact ⟨(), hv, rfl⟩

end FilterSpec

namespace VoltageFilter

/-- Bounds are finite, and a range ends where it starts or later. -/
def Sound : VoltageFilter → Prop
  | .compare _ b => b.isFinite = true
  | .range low high => low.isFinite = true ∧ high.isFinite = true ∧ low.le high = true

theorem validate_eq_ok_iff {f : VoltageFilter} : f.validate = .ok () ↔ f.Sound := by
  cases f with
  | compare c b =>
    simp only [validate, Sound]
    split <;> simp_all
  | range low high =>
    simp only [validate, Sound]
    split
    · next h => simp only [reduceCtorEq, false_iff]; exact fun hs => h ⟨hs.1, hs.2.1⟩
    · next h =>
      have hfinite := not_not.1 h
      rw [← Binary64.lt_eq_false_iff hfinite.1 hfinite.2]
      split <;> simp_all

theorem validate_of_ofRecord {r : VoltageRecord} {f : VoltageFilter} (h : ofRecord r = .ok f) :
    f.validate = .ok () := by
  unfold ofRecord at h
  split at h
  · obtain ⟨g, -, h⟩ := bind_eq_ok_iff.1 h
    obtain ⟨⟨⟩, hv, hg⟩ := bind_eq_ok_iff.1 h
    exact Except.ok.inj hg ▸ hv
  · obtain ⟨g, -, h⟩ := bind_eq_ok_iff.1 h
    obtain ⟨⟨⟩, hv, hg⟩ := bind_eq_ok_iff.1 h
    exact Except.ok.inj hg ▸ hv
  · cases h

/-- A valid filter is accepted from its own record. -/
theorem ofRecord_record {f : VoltageFilter} (h : f.validate = .ok ()) : ofRecord f.record = .ok f := by
  unfold ofRecord
  cases f with
  | compare c b =>
    simp only [record]
    rw [bind_eq_ok_iff]
    exact ⟨_, rfl, by rw [h]; rfl⟩
  | range low high =>
    simp only [record]
    rw [bind_eq_ok_iff]
    exact ⟨_, rfl, by rw [h]; rfl⟩

end VoltageFilter

/-- The first voltage filter of a record, next to what its single-voltage form stands for. -/
def FilterRecord.first (r : FilterRecord) (single : Option VoltageFilter) :
    Except Rejection (Option VoltageFilter) :=
  match r.voltage1 with
  | some v => some <$> VoltageFilter.ofRecord v
  | none => .ok single

/-- A filter of the single-voltage form is a valid one. -/
theorem FilterRecord.validate_of_single {r : FilterRecord} {o : Option VoltageFilter}
    (h : r.single = .ok o) : ∀ f ∈ o, f.validate = .ok () := by
  intro f hf
  obtain rfl : o = some f := hf
  unfold single at h
  split at h
  · unfold SingleVoltage.toFilter at h
    split at h
    · cases h
    · split at h
      · obtain ⟨g, hg, he⟩ := map_eq_ok_iff.1 h
        obtain rfl : g = f := Option.some.inj he
        exact VoltageFilter.validate_of_ofRecord hg
      · cases h
  · split at h <;> cases h
  · cases h

namespace FilterSpec

theorem ofRecord_eq (r : FilterRecord) :
    ofRecord r = (do
      let type ← EquipmentType.ofName r.type
      let single ← r.single
      let voltage1 ← r.first single
      let voltage2 ← r.voltage2.mapM VoltageFilter.ofRecord
      let countries1 ← CountrySet.ofCodes r.countries1
      let countries2 ← CountrySet.ofCodes r.countries2
      return { type := type, idPattern := givenPattern r.idPattern,
               namePattern := givenPattern r.namePattern, voltage1 := voltage1,
               voltage2 := voltage2, countries1 := countries1, countries2 := countries2 }) := by
  unfold ofRecord FilterRecord.first
  cases r.voltage1 <;> rfl

theorem validate_of_ofRecord {r : FilterRecord} {s : FilterSpec} (h : ofRecord r = .ok s) :
    s.validate = .ok () := by
  simp only [ofRecord_eq, bind_eq_ok_iff] at h
  obtain ⟨type, -, single, hsingle, voltage1, h1, voltage2, h2, countries1, -, countries2, -, h⟩ := h
  obtain rfl := Except.ok.inj h
  refine validate_eq_ok_iff.2 ⟨?_, ?_⟩
  · intro f hf
    obtain rfl : voltage1 = some f := hf
    unfold FilterRecord.first at h1
    cases hv : r.voltage1 with
    | none =>
      rw [hv] at h1
      obtain rfl : single = some f := Except.ok.inj h1
      exact FilterRecord.validate_of_single hsingle f rfl
    | some v =>
      rw [hv] at h1
      obtain ⟨g, hg, he⟩ := map_eq_ok_iff.1 h1
      obtain rfl : g = f := Option.some.inj he
      exact VoltageFilter.validate_of_ofRecord hg
  · intro f hf
    obtain rfl : voltage2 = some f := hf
    rw [optionMapM_eq_ok_iff] at h2
    cases hv : r.voltage2 with
    | none => rw [hv] at h2; cases h2
    | some v =>
      rw [hv] at h2
      obtain ⟨g, hg, he⟩ := h2
      obtain rfl : f = g := Option.some.inj he
      exact VoltageFilter.validate_of_ofRecord hg

theorem Accepted.validate {s : FilterSpec} (h : s.Accepted) : s.validate = .ok () := by
  induction h with
  | decoded h => exact validate_of_ofRecord h
  | new type => rfl
  | withIdPattern _ p ih => exact ih
  | withNamePattern _ p ih => exact ih
  | withVoltage1 _ hf ih =>
    refine validate_eq_ok_iff.2 ⟨?_, (validate_eq_ok_iff.1 ih).2⟩
    intro f' hf'
    obtain rfl := Option.some.inj hf'
    exact hf
  | withVoltage2 _ hf ih =>
    refine validate_eq_ok_iff.2 ⟨(validate_eq_ok_iff.1 ih).1, ?_⟩
    intro f' hf'
    obtain rfl := Option.some.inj hf'
    exact hf
  | withCountries1 _ cs ih => exact ih
  | withCountries2 _ cs ih => exact ih

theorem Accepted.compile {s : FilterSpec} (h : s.Accepted) : s.compile = .ok s.compiled :=
  compile_eq_ok_iff.2 ⟨h.validate, rfl⟩

theorem Accepted.toScript {s : FilterSpec} (h : s.Accepted) :
    s.toScript = .ok s.compiled.toScript :=
  map_eq_ok_iff.2 ⟨s.compiled, h.compile, rfl⟩

end FilterSpec

end GridOutage.Filter
