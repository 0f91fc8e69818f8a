import GridOutage.Error
import GridOutage.Proofs.Country
import GridOutage.Proofs.Filter.Accepted

/-!
# Which records are accepted

`FilterRecord.Acceptable` says what a record must be like to stand for a description, and
`FilterRecord.StandsFor` which description that is. Both are stated of the fields of the record and
not through the steps that check it, so that the two forms of a voltage are seen side by side: a
single voltage is checked even where a voltage filter stands beside it, and it counts only where none
does.

A record that is refused has a `Fault` in one of its parts, and the error is that of the first part
that has one (`ofRecord_exact`).
-/
namespace GridOutage.Filter

open Outcome

/-! ## Types -/

/-- The text names the type, blanks around it and the case of ASCII letters apart. -/
def NamedBy (type : EquipmentType) (s : String) : Prop := Text.Spells s type.name.toList

theorem capital_name (t : EquipmentType) : t.name.toList.map Char.toUpper = t.name.toList := by
  cases t <;> rfl

theorem sameIgnoringCase_name_iff {s : String} {t : EquipmentType} :
    Text.sameIgnoringCase t.name (Text.trim s) = true ↔ NamedBy t s := by
  unfold NamedBy Text.sameIgnoringCase Text.trim
  rw [Text.spells_iff, String.toList_ofList, capital_name, beq_iff_eq, eq_comm]

theorem namedBy_of_ofText? {s : String} {t : EquipmentType} (h : EquipmentType.ofText? s = some t) :
    NamedBy t s := by
  unfold EquipmentType.ofText? at h
  have hsame := List.find?_some h
  exact sameIgnoringCase_name_iff.1 hsame

theorem ofText?_eq_some_iff {s : String} {t : EquipmentType} :
    EquipmentType.ofText? s = some t ↔ NamedBy t s := by
  refine ⟨namedBy_of_ofText?, fun h => ?_⟩
  cases hu : EquipmentType.ofText? s with
  | none =>
    unfold EquipmentType.ofText? at hu
    exact absurd (sameIgnoringCase_name_iff.2 h) (List.find?_eq_none.1 hu t t.mem_all)
  | some u =>
    -- Two types have no name in common.
    have hname : u.name.toList = t.name.toList := (namedBy_of_ofText? hu).unique h
    rw [EquipmentType.name_injective (String.toList_inj.1 hname)]

theorem ofName_eq_ok_iff {s : String} {t : EquipmentType} :
    EquipmentType.ofName s = .ok t ↔ NamedBy t s := by
  rw [← ofText?_eq_some_iff]
  unfold EquipmentType.ofName
  cases EquipmentType.ofText? s <;> simp

theorem ofName_eq_error_iff {s : String} {e : Rejection} :
    EquipmentType.ofName s = .error e ↔ (∀ t, ¬ NamedBy t s) ∧ e = .equipmentType s := by
  simp only [← ofText?_eq_some_iff]
  unfold EquipmentType.ofName
  cases EquipmentType.ofText? s <;> simp [eq_comm]

/-! ## Voltage filters -/

namespace VoltageRecord

/-- The filter has the operator and the bounds of the record. Only a range has a second bound. -/
def Describes (r : VoltageRecord) : VoltageFilter → Prop
  | .compare c b => r.operator = .compare c ∧ r.bound1 = b
  | .range low high => r.operator = .range ∧ r.bound1 = low ∧ r.bound2 = some high

/-- The first bound is finite, and a range has a second one that is finite and no less. -/
structure Bounded (r : VoltageRecord) : Prop where
  finite : r.bound1.isFinite = true
  range : r.operator = .range → ∃ high, r.bound2 = some high ∧ high.isFinite = true ∧
    r.bound1.le high = true

/-- What is wrong with a voltage record. -/
inductive Fault (r : VoltageRecord) : Rejection → Prop
  | boundMissing (h : r.operator = .range) (hno : r.bound2 = none) : Fault r .upperBoundMissing
  | notFinite {c : Comparison} (h : r.operator = .compare c) (hb : r.bound1.isFinite = false) :
      Fault r (.boundNotFinite r.bound1)
  | rangeNotFinite {high : Binary64} (h : r.operator = .range) (hhigh : r.bound2 = some high)
      (hb : ¬ (r.bound1.isFinite = true ∧ high.isFinite = true)) :
      Fault r (.rangeNotFinite r.bound1 high)
  | inverted {high : Binary64} (h : r.operator = .range) (hhigh : r.bound2 = some high)
      (hb : r.bound1.isFinite = true ∧ high.isFinite = true) (hlt : high.lt r.bound1 = true) :
      Fault r (.rangeInverted r.bound1 high)

end VoltageRecord

namespace VoltageFilter

theorem validated_eq_ok_iff {f g : VoltageFilter} :
    (do f.validate; return f : Except Rejection VoltageFilter) = .ok g ↔ f = g ∧ f.Sound := by
  rw [bind_eq_ok_iff, ← validate_eq_ok_iff]
  constructor
  · rintro ⟨⟨⟩, hvalid, h⟩
    exact ⟨Except.ok.inj h, hvalid⟩
  · rintro ⟨rfl, hvalid⟩
    exact ⟨(), hvalid, rfl⟩

theorem validated_eq_error_iff {f : VoltageFilter} {e : Rejection} :
    (do f.validate; return f : Except Rejection VoltageFilter) = .error e ↔ f.validate = .error e := by
  cases f.validate <;> simp [bind, Except.bind, pure, Except.pure]

theorem validate_compare_eq_error_iff {c : Comparison} {b : Binary64} {e : Rejection} :
    validate (.compare c b) = .error e ↔ b.isFinite = false ∧ e = .boundNotFinite b := by
  simp only [validate]
  split
  · next h => simp [h]
  · next h => simp [h, @eq_comm _ e]

theorem validate_range_eq_error_iff {low high : Binary64} {e : Rejection} :
    validate (.range low high) = .error e ↔
      (¬ (low.isFinite = true ∧ high.isFinite = true) ∧ e = .rangeNotFinite low high) ∨
        (low.isFinite = true ∧ high.isFinite = true) ∧ high.lt low = true ∧
          e = .rangeInverted low high := by
  simp only [validate]
  split
  · next h => simp [h, @eq_comm _ e]
  · next h =>
    rw [not_not] at h
    split
    · next hlt => simp [h, hlt, @eq_comm _ e]
    · next hlt => simp [h, hlt]

theorem ofRecord_eq_ok_iff {r : VoltageRecord} {f : VoltageFilter} :
    ofRecord r = .ok f ↔ r.Describes f ∧ r.Bounded := by
  obtain ⟨operator, low, bound2⟩ := r
  cases operator with
  | compare c =>
    have hdescribes : VoltageRecord.Describes ⟨.compare c, low, bound2⟩ f ↔ .compare c low = f := by
      cases f <;> simp [VoltageRecord.Describes]
    have hbounded : VoltageRecord.Bounded ⟨.compare c, low, bound2⟩ ↔ Sound (.compare c low) :=
      ⟨fun h => h.finite, fun h => ⟨h, fun hrange => by cases hrange⟩⟩
    rw [hdescribes, hbounded]
    exact validated_eq_ok_iff
  | range =>
    cases bound2 with
    | none =>
      have hno : ¬ VoltageRecord.Bounded ⟨.range, low, none⟩ := by
        intro h
        obtain ⟨high, hhigh, -⟩ := h.range rfl
        cases hhigh
      simp only [hno, and_false, iff_false]
      intro h
      cases h
    | some high =>
      have hdescribes : VoltageRecord.Describes ⟨.range, low, some high⟩ f ↔ .range low high = f := by
        cases f <;> simp [VoltageRecord.Describes]
      have hbounded : VoltageRecord.Bounded ⟨.range, low, some high⟩ ↔ Sound (.range low high) := by
        constructor
        · intro h
          obtain ⟨high', hhigh, hfinite, hle⟩ := h.range rfl
          cases hhigh
          exact ⟨h.finite, hfinite, hle⟩
        · intro h
          exact ⟨h.1, fun _ => ⟨high, rfl, h.2⟩⟩
      rw [hdescribes, hbounded]
      exact validated_eq_ok_iff

theorem exists_ofRecord_iff {r : VoltageRecord} : (∃ f, ofRecord r = .ok f) ↔ r.Bounded := by
  simp only [ofRecord_eq_ok_iff, exists_and_right, and_iff_right_iff_imp]
  intro h
  cases hop : r.operator with
  | compare c => exact ⟨.compare c r.bound1, hop, rfl⟩
  | range =>
    obtain ⟨high, hhigh, -⟩ := h.range hop
    exact ⟨.range r.bound1 high, hop, rfl, hhigh⟩

theorem ofRecord_eq_error_iff {r : VoltageRecord} {e : Rejection} :
    ofRecord r = .error e ↔ r.Fault e := by
  obtain ⟨operator, low, bound2⟩ := r
  cases operator with
  | compare c =>
    refine (validated_eq_error_iff (f := .compare c low)).trans ?_
    rw [validate_compare_eq_error_iff]
    constructor
    · rintro ⟨hb, rfl⟩
      exact .notFinite rfl hb
    · intro h
      cases h with
      | notFinite _ hb => exact ⟨hb, rfl⟩
      | boundMissing hop | rangeNotFinite hop | inverted hop => cases hop
  | range =>
    cases bound2 with
    | none =>
      constructor
      · intro h
        obtain rfl := Except.error.inj h
        exact .boundMissing rfl rfl
      · intro h
        cases h with
        | boundMissing => rfl
        | notFinite hop => cases hop
        | rangeNotFinite _ hhigh | inverted _ hhigh => cases hhigh
    | some high =>
      refine (validated_eq_error_iff (f := .range low high)).trans ?_
      rw [validate_range_eq_error_iff]
      constructor
      · rintro (⟨hb, rfl⟩ | ⟨hb, hlt, rfl⟩)
        · exact .rangeNotFinite rfl rfl hb
        · exact .inverted rfl rfl hb hlt
      · intro h
        cases h with
        | boundMissing _ hno => cases hno
        | notFinite hop => cases hop
        | rangeNotFinite _ hhigh hb =>
          cases hhigh
          exact .inl ⟨hb, rfl⟩
        | inverted _ hhigh hb hlt =>
          cases hhigh
          exact .inr ⟨hb, hlt, rfl⟩

end VoltageFilter

/-! ## The single-voltage form -/

theorem finite_noVoltage : noVoltage.isFinite = true := by decide +kernel

/-- Only one number is the same as the one that stands for no filter. -/
theorem same_noVoltage_iff {v : Binary64} : v.same noVoltage = true ↔ v = noVoltage := by
  have hno : noVoltage = .number true ⟨0x3FF0000000000000, by decide⟩ := by decide +kernel
  rw [hno]
  cases v with
  | nan => simp [Binary64.same, Binary64.le]
  | number s r =>
    cases s <;> simp [Binary64.same, Binary64.le, Binary64.key, Fin.ext_iff] <;> omega

namespace FilterRecord

/-- A single voltage stands for no filter, or it is finite and has a comparison. -/
def SingleSound (r : FilterRecord) : Prop :=
  ∀ v ∈ r.singleVoltage, v = noVoltage ∨
    ∃ c, r.singleOperator = some (.compare c) ∧ v.isFinite = true

/-- The filter that the single-voltage form stands for. -/
def singleFilter (r : FilterRecord) : Option VoltageFilter :=
  match r.singleVoltage, r.singleOperator with
  | some v, some (.compare c) => if v = noVoltage then none else some (.compare c v)
  | _, _ => none

/-- What is wrong with the single-voltage form. -/
inductive SingleFault (r : FilterRecord) : Rejection → Prop
  | range {v : Binary64} (hv : r.singleVoltage = some v) (hne : v ≠ noVoltage)
      (hop : r.singleOperator = some .range) : SingleFault r .legacyRange
  | notFinite {v : Binary64} {c : Comparison} (hv : r.singleVoltage = some v)
      (hop : r.singleOperator = some (.compare c)) (hb : v.isFinite = false) :
      SingleFault r (.boundNotFinite v)
  | noOperator {v : Binary64} (hv : r.singleVoltage = some v) (hne : v ≠ noVoltage)
      (hop : r.singleOperator = none) : SingleFault r .legacyOperatorMissing

theorem single_none {r : FilterRecord} (h : r.singleVoltage = none) : r.single = .ok none := by
  unfold single
  rw [h]

theorem single_noVoltage {r : FilterRecord} (h : r.singleVoltage = some noVoltage) :
    r.single = .ok none := by
  have hsame : noVoltage.same noVoltage = true := same_noVoltage_iff.2 rfl
  unfold single
  rw [h]
  cases r.singleOperator with
  | none => exact if_pos hsame
  | some op => exact if_pos hsame

theorem single_of_ne {r : FilterRecord} {v : Binary64} (h : r.singleVoltage = some v)
    (hne : v ≠ noVoltage) :
    r.single = match r.singleOperator with
      | some (.compare c) =>
        if v.isFinite then .ok (some (.compare c v)) else .error (.boundNotFinite v)
      | some .range => .error .legacyRange
      | none => .error .legacyOperatorMissing := by
  have hsame : ¬ v.same noVoltage = true := fun hs => hne (same_noVoltage_iff.1 hs)
  unfold single
  rw [h]
  cases r.singleOperator with
  | none => exact if_neg hsame
  | some op =>
    refine (if_neg hsame).trans ?_
    cases op with
    | range => rfl
    | compare c =>
      dsimp only
      split
      · next hb =>
        have hrecord := VoltageFilter.ofRecord_eq_ok_iff (r := ⟨.compare c, v, none⟩)
          (f := .compare c v)
        rw [hrecord.2 ⟨⟨rfl, rfl⟩, hb, fun hop => by cases hop⟩]
        rfl
      · next hb =>
        have hrecord := VoltageFilter.ofRecord_eq_error_iff (r := ⟨.compare c, v, none⟩)
          (e := .boundNotFinite v)
        rw [hrecord.2 (.notFinite rfl (Bool.eq_false_iff.2 hb))]
        rfl

theorem single_eq_ok_iff {r : FilterRecord} {o : Option VoltageFilter} :
    r.single = .ok o ↔ r.SingleSound ∧ o = r.singleFilter := by
  unfold SingleSound singleFilter
  cases hv : r.singleVoltage with
  | none => simp [single_none hv, @eq_comm _ o]
  | some v =>
    by_cases hno : v = noVoltage
    · subst hno
      rw [single_noVoltage hv]
      rcases r.singleOperator with _ | _ | _ <;> simp [@eq_comm _ o]
    · rw [single_of_ne hv hno]
      rcases hop : r.singleOperator with _ | c | _
      · simp [hno]
      · by_cases hb : v.isFinite = true
        · simp [hno, hb, @eq_comm _ o]
        · simp [hno, hb]
      · simp [hno]

theorem single_eq_error_iff {r : FilterRecord} {e : Rejection} :
    r.single = .error e ↔ r.SingleFault e := by
  constructor
  · intro h
    cases hv : r.singleVoltage with
    | none =>
      rw [single_none hv] at h
      cases h
    | some v =>
      by_cases hno : v = noVoltage
      · subst hno
        rw [single_noVoltage hv] at h
        cases h
      · rw [single_of_ne hv hno] at h
        rcases hop : r.singleOperator with _ | c | _
        · rw [hop] at h
          obtain rfl := Except.error.inj h
          exact .noOperator hv hno hop
        · rw [hop] at h
          dsimp only at h
          split at h
          · cases h
          · next hb =>
            obtain rfl := Except.error.inj h
            exact .notFinite hv hop (Bool.eq_false_iff.2 hb)
        · rw [hop] at h
          obtain rfl := Except.error.inj h
          exact .range hv hno hop
  · intro h
    cases h with
    | range hv hne hop => rw [single_of_ne hv hne, hop]
    | noOperator hv hne hop => rw [single_of_ne hv hne, hop]
    | @notFinite v c hv hop hb =>
      have hne : v ≠ noVoltage := by
        rintro rfl
        rw [finite_noVoltage] at hb
        cases hb
      rw [single_of_ne hv hne, hop]
      exact if_neg (Bool.eq_false_iff.1 hb)

end FilterRecord

/-! ## Records -/

/-- The parts of a record, in the order in which they are checked. -/
inductive Part where
  | type | single | voltage1 | voltage2 | countries1 | countries2
  deriving DecidableEq

def Part.all : List Part := [.type, .single, .voltage1, .voltage2, .countries1, .countries2]

namespace FilterRecord

/-- What a record must be like to be accepted. The single voltage is checked also where a voltage
filter is given, which is then the one that counts. -/
structure Acceptable (r : FilterRecord) : Prop where
  type : ∃ t, NamedBy t r.type
  single : r.SingleSound
  voltage1 : ∀ v ∈ r.voltage1, v.Bounded
  voltage2 : ∀ v ∈ r.voltage2, v.Bounded
  countries1 : ∀ code ∈ r.countries1, Country.TwoLetters code
  countries2 : ∀ code ∈ r.countries2, Country.TwoLetters code

/-- The set of the countries that codes stand for, in the order of the codes. -/
def CodesOf (codes : List String) (s : CountrySet) : Prop :=
  ∃ cs : List Country, List.Forall₂ (fun code c => Text.Spells code c.chars) codes cs ∧
    s = .ofList cs

/-- The description is the one that the record stands for. -/
structure StandsFor (r : FilterRecord) (s : FilterSpec) : Prop where
  type : NamedBy s.type r.type
  idPattern : ∀ p, s.idPattern = some p ↔ r.idPattern = some p ∧ Text.blank p = false
  namePattern : ∀ p, s.namePattern = some p ↔ r.namePattern = some p ∧ Text.blank p = false
  given1 : ∀ v, r.voltage1 = some v → ∃ f, s.voltage1 = some f ∧ v.Describes f
  single : r.voltage1 = none → s.voltage1 = r.singleFilter
  given2 : ∀ v, r.voltage2 = some v → ∃ f, s.voltage2 = some f ∧ v.Describes f
  absent2 : r.voltage2 = none → s.voltage2 = none
  countries1 : CodesOf r.countries1 s.countries1
  countries2 : CodesOf r.countries2 s.countries2

/-- What is wrong with a part of a record. -/
inductive Fault (r : FilterRecord) : Part → Rejection → Prop
  | type (h : ∀ t, ¬ NamedBy t r.type) : Fault r .type (.equipmentType r.type)
  | single {e : Rejection} (h : r.SingleFault e) : Fault r .single e
  | voltage1 {v : VoltageRecord} {e : Rejection} (hv : r.voltage1 = some v) (h : v.Fault e) :
      Fault r .voltage1 e
  | voltage2 {v : VoltageRecord} {e : Rejection} (hv : r.voltage2 = some v) (h : v.Fault e) :
      Fault r .voltage2 e
  | countries1 {code : String}
      (h : First (fun code => ¬ Country.TwoLetters code) r.countries1 code) :
      Fault r .countries1 (.country code)
  | countries2 {code : String}
      (h : First (fun code => ¬ Country.TwoLetters code) r.countries2 code) :
      Fault r .countries2 (.country code)

/-- The record without the single-voltage form. The filter that it stands for is given as the first
voltage filter, unless another one is. -/
def modern (r : FilterRecord) : FilterRecord :=
  { r with
    voltage1 := r.voltage1.or (r.singleFilter.map VoltageFilter.record)
    singleVoltage := none
    singleOperator := none }

end FilterRecord

/-- A given voltage filter, or another where none is given. -/
def givenOr (other : Option VoltageFilter) :
    Option VoltageRecord → Except Rejection (Option VoltageFilter)
  | some v => some <$> VoltageFilter.ofRecord v
  | none => .ok other

theorem givenOr_eq_ok_iff {other o : Option VoltageFilter} {given : Option VoltageRecord} :
    givenOr other given = .ok o ↔ (∀ v ∈ given, v.Bounded) ∧
      (∀ v, given = some v → ∃ f, o = some f ∧ v.Describes f) ∧ (given = none → o = other) := by
  cases given with
  | none => simp [givenOr, @eq_comm _ o]
  | some v =>
    simp only [givenOr, map_eq_ok_iff, VoltageFilter.ofRecord_eq_ok_iff]
    constructor
    · rintro ⟨f, ⟨hf, hbounded⟩, rfl⟩
      simp [hbounded, hf]
    · rintro ⟨hbounded, hgiven, -⟩
      obtain ⟨f, rfl, hf⟩ := hgiven v rfl
      exact ⟨f, ⟨hf, hbounded v rfl⟩, rfl⟩

theorem givenOr_eq_error_iff {other : Option VoltageFilter} {given : Option VoltageRecord}
    {e : Rejection} : givenOr other given = .error e ↔ ∃ v, given = some v ∧ v.Fault e := by
  cases given with
  | none => simp [givenOr]
  | some v => simp [givenOr, map_eq_error_iff, VoltageFilter.ofRecord_eq_error_iff]

namespace FilterSpec

theorem ofRecord_checks (r : FilterRecord) :
    ofRecord r = (do
      let type ← EquipmentType.ofName r.type
      let single ← r.single
      let voltage1 ← givenOr single r.voltage1
      let voltage2 ← givenOr none r.voltage2
      let countries1 ← CountrySet.ofCodes r.countries1
      let countries2 ← CountrySet.ofCodes r.countries2
      return { type := type, idPattern := givenPattern r.idPattern,
               namePattern := givenPattern r.namePattern, voltage1 := voltage1,
               voltage2 := voltage2, countries1 := countries1, countries2 := countries2 }) := by
  unfold ofRecord
  cases r.voltage1 <;> cases r.voltage2 <;> rfl

theorem givenPattern_eq_some_iff {o : Option String} {p : String} :
    givenPattern o = some p ↔ o = some p ∧ Text.blank p = false := by
  simp [givenPattern, Option.filter_eq_some_iff]

theorem ofRecord_eq_ok_iff {r : FilterRecord} {s : FilterSpec} :
    ofRecord r = .ok s ↔ r.Acceptable ∧ r.StandsFor s := by
  have hcodes {codes : List String} {s : CountrySet} (h : FilterRecord.CodesOf codes s) :
      ∀ code ∈ codes, Country.TwoLetters code := by
    obtain ⟨cs, hcs, -⟩ := h
    intro code hcode
    exact Country.twoLetters_iff.2 (exists_of_forall₂ hcs hcode)
  rw [ofRecord_checks]
  simp only [bind_eq_ok_iff, ofName_eq_ok_iff, FilterRecord.single_eq_ok_iff, givenOr_eq_ok_iff,
    CountrySet.ofCodes_eq_ok_iff]
  constructor
  · rintro ⟨type, htype, single, ⟨hsingle, rfl⟩, voltage1, ⟨hb1, hgiven1, hno1⟩, voltage2,
      ⟨hb2, hgiven2, hno2⟩, countries1, hcs1, countries2, hcs2, h⟩
    obtain rfl := Except.ok.inj h
    exact ⟨⟨⟨type, htype⟩, hsingle, hb1, hb2, hcodes hcs1, hcodes hcs2⟩,
      ⟨htype, fun p => givenPattern_eq_some_iff, fun p => givenPattern_eq_some_iff, hgiven1, hno1,
        hgiven2, hno2, hcs1, hcs2⟩⟩
  · rintro ⟨hr, hs⟩
    refine ⟨s.type, hs.type, _, ⟨hr.single, rfl⟩, s.voltage1, ⟨hr.voltage1, hs.given1, hs.single⟩,
      s.voltage2, ⟨hr.voltage2, hs.given2, hs.absent2⟩, s.countries1, hs.countries1, s.countries2,
      hs.countries2, ?_⟩
    have hid : givenPattern r.idPattern = s.idPattern :=
      Option.ext fun p => givenPattern_eq_some_iff.trans (hs.idPattern p).symm
    have hname : givenPattern r.namePattern = s.namePattern :=
      Option.ext fun p => givenPattern_eq_some_iff.trans (hs.namePattern p).symm
    rw [hid, hname]
    rfl

/-- A record is refused for what is wrong with the first part that something is wrong with. -/
theorem ofRecord_eq_error_iff {r : FilterRecord} {e : Rejection} :
    ofRecord r = .error e ↔ FirstFault r.Fault Part.all e := by
  have hcountries {part : Part} {codes : List String}
      (hpart : ∀ e, r.Fault part e ↔
        ∃ code, First (fun code => ¬ Country.TwoLetters code) codes code ∧ e = .country code) (e) :
      CountrySet.ofCodes codes = .error e ↔ r.Fault part e := by
    rw [CountrySet.ofCodes_eq_error_iff, hpart]
  rw [ofRecord_checks]
  refine bind_eq_error_iff_firstFault ?type
    (fun _ => bind_eq_error_iff_firstFault ?single
      (fun _ => bind_eq_error_iff_firstFault ?voltage1
        (fun _ => bind_eq_error_iff_firstFault ?voltage2
          (fun _ => bind_eq_error_iff_firstFault (hcountries ?countries1)
            (fun _ => bind_eq_error_iff_firstFault (hcountries ?countries2) ?last))))) e
  case type =>
    intro e
    rw [ofName_eq_error_iff]
    constructor
    · rintro ⟨h, rfl⟩
      exact .type h
    · intro h
      cases h with
      | type h => exact ⟨h, rfl⟩
  case single =>
    intro e
    rw [FilterRecord.single_eq_error_iff]
    constructor
    · exact .single
    · intro h
      cases h with
      | single h => exact h
  case voltage1 =>
    intro e
    rw [givenOr_eq_error_iff]
    constructor
    · rintro ⟨v, hv, h⟩
      exact .voltage1 hv h
    · intro h
      cases h with
      | voltage1 hv h => exact ⟨_, hv, h⟩
  case voltage2 =>
    intro e
    rw [givenOr_eq_error_iff]
    constructor
    · rintro ⟨v, hv, h⟩
      exact .voltage2 hv h
    · intro h
      cases h with
      | voltage2 hv h => exact ⟨_, hv, h⟩
  case countries1 =>
    intro e
    constructor
    · intro h
      cases h with
      | countries1 h => exact ⟨_, h, rfl⟩
    · rintro ⟨code, h, rfl⟩
      exact .countries1 h
  case countries2 =>
    intro e
    constructor
    · intro h
      cases h with
      | countries2 h => exact ⟨_, h, rfl⟩
    · rintro ⟨code, h, rfl⟩
      exact .countries2 h
  case last =>
    intro _ e
    simp only [firstFault_nil, iff_false]
    intro h
    cases h

end FilterSpec

theorem VoltageRecord.Bounded.not_fault {r : VoltageRecord} (h : r.Bounded) (e : Rejection) :
    ¬ r.Fault e := by
  intro he
  obtain ⟨f, hf⟩ := VoltageFilter.exists_ofRecord_iff.2 h
  rw [VoltageFilter.ofRecord_eq_error_iff.2 he] at hf
  cases hf

theorem FilterRecord.Acceptable.not_fault {r : FilterRecord} (h : r.Acceptable) (part : Part)
    (e : Rejection) : ¬ r.Fault part e := by
  intro he
  cases he with
  | type hno =>
    obtain ⟨t, ht⟩ := h.type
    exact hno t ht
  | single he =>
    have hok := FilterRecord.single_eq_ok_iff.2 ⟨h.single, rfl⟩
    rw [FilterRecord.single_eq_error_iff.2 he] at hok
    cases hok
  | voltage1 hv he => exact (h.voltage1 _ hv).not_fault e he
  | voltage2 hv he => exact (h.voltage2 _ hv).not_fault e he
  | countries1 hcode =>
    obtain ⟨hmem, hno⟩ := hcode.holds
    exact hno (h.countries1 _ hmem)
  | countries2 hcode =>
    obtain ⟨hmem, hno⟩ := hcode.holds
    exact hno (h.countries2 _ hmem)

namespace FilterSpec

theorem exists_ofRecord_iff {r : FilterRecord} : (∃ s, ofRecord r = .ok s) ↔ r.Acceptable := by
  constructor
  · rintro ⟨s, hs⟩
    exact (ofRecord_eq_ok_iff.1 hs).1
  · intro h
    cases hr : ofRecord r with
    | ok s => exact ⟨s, rfl⟩
    | error e =>
      obtain ⟨part, -, he⟩ := ofRecord_eq_error_iff.1 hr
      exact absurd he (h.not_fault part e)

/-- The single-voltage form says nothing that the modern form could not say. -/
theorem ofRecord_modern {r : FilterRecord} (h : r.SingleSound) : ofRecord r = ofRecord r.modern := by
  have hsingle : r.single = .ok r.singleFilter := FilterRecord.single_eq_ok_iff.2 ⟨h, rfl⟩
  have hno : r.modern.single = .ok none := FilterRecord.single_none rfl
  have hfirst : givenOr r.singleFilter r.voltage1 = givenOr none r.modern.voltage1 := by
    unfold FilterRecord.modern
    cases hv : r.voltage1 with
    | some v => rfl
    | none =>
      cases hf : r.singleFilter with
      | none => rfl
      | some f =>
        have hvalid := FilterRecord.validate_of_single (hf ▸ hsingle) f rfl
        change _ = some <$> VoltageFilter.ofRecord f.record
        rw [VoltageFilter.ofRecord_record hvalid]
        rfl
  have hok {α β : Type} (a : α) (f : α → Except Rejection β) : (Except.ok a >>= f) = f a := rfl
  simp only [ofRecord_checks, hsingle, hno, hok, hfirst]
  rfl

/-- Exactly the acceptable records are accepted, each for the one description that it stands for, be
it in the single-voltage form or in the modern one. Any other is refused with what is wrong with its
first part that is not in order. -/
theorem ofRecord_exact (r : FilterRecord) :
    ((∃ s, ofRecord r = .ok s) ↔ r.Acceptable) ∧
    (∀ s, ofRecord r = .ok s ↔ r.Acceptable ∧ r.StandsFor s) ∧
    (r.SingleSound → ofRecord r = ofRecord r.modern) ∧
    (∀ e, ofRecord r = .error e ↔ FirstFault r.Fault Part.all e) ∧
    ∀ e, ofRecord r = .error e → (Error.rejected e).kind = .configuration :=
  ⟨exists_ofRecord_iff, fun _ => ofRecord_eq_ok_iff, ofRecord_modern, fun _ => ofRecord_eq_error_iff,
    fun _ _ => rfl⟩

/-- A record with both voltage forms, of which the older one says that there is no filter. -/
def mixedRecord : FilterRecord where
  type := " Line "
  idPattern := some " "
  namePattern := some " * "
  voltage1 := some { operator := .range, bound1 := .ofInt 63, bound2 := some (.ofInt 90) }
  singleVoltage := some (.ofInt (-1))
  singleOperator := some .range
  countries1 := ["fr", " FR\t", "Be"]

/-- The description it stands for. -/
def mixedSpec : FilterSpec where
  type := .line
  namePattern := some " * "
  voltage1 := some (.range (.ofInt 63) (.ofInt 90))
  countries1 := .ofList (["FR", "BE"].filterMap Country.ofText?)

/-- The record with a single voltage that is no filter, and with a code that is none. -/
def faultyRecord : FilterRecord :=
  { mixedRecord with singleVoltage := some (.ofInt 225), countries1 := ["FRA"] }

theorem ofRecord_exact_mixed :
    ofRecord mixedRecord = .ok mixedSpec ∧ mixedRecord.Acceptable ∧ mixedRecord.StandsFor mixedSpec ∧
      ofRecord mixedRecord = ofRecord mixedRecord.modern ∧
      ofRecord faultyRecord = .error .legacyRange ∧
      FirstFault faultyRecord.Fault Part.all .legacyRange ∧
      (Error.rejected .legacyRange).kind = .configuration := by
  have hmixed : ofRecord mixedRecord = .ok mixedSpec := by decide +kernel
  have hfaulty : ofRecord faultyRecord = .error .legacyRange := by decide +kernel
  obtain ⟨-, hstands, hmodern, -⟩ := ofRecord_exact mixedRecord
  obtain ⟨-, -, -, hfault, hkind⟩ := ofRecord_exact faultyRecord
  obtain ⟨hacceptable, hspec⟩ := (hstands mixedSpec).1 hmixed
  exact ⟨hmixed, hacceptable, hspec, hmodern hacceptable.single, hfaulty, (hfault _).1 hfaulty,
    hkind _ hfaulty⟩

end FilterSpec

end GridOutage.Filter
