import GridOutage.Proofs.Document.Elements
import GridOutage.Proofs.Document.Record
import GridOutage.Proofs.Filter.Accepted

/-!
# Filter descriptions read back

A description is written with the names and bounds it has, and what is read is a record that is
accepted again: codes become countries, blank patterns are dropped, a single voltage becomes a
filter. `FilterSpec.record` is the record that is read from a written description, and accepting it
gives the description back (`FilterSpec.ofRecord_record`), because an accepted description has
nothing left that would be changed.
-/
namespace GridOutage.Filter

open Document Outcome

/-! ## Voltage filters -/

theorem Operator.decode_name (o : Origin) (op : Operator) : decode o (.str op.name) = .ok op := by
  change meaning names op.name = .ok op
  cases op with
  | compare c => cases c <;> rfl
  | range => rfl

namespace VoltageRecord

/-- The entries of a record, of which the second bound may be left out. -/
def written (r : VoltageRecord) : List (String × Option Value) :=
  [("operator", some (.str r.operator.name)), ("bound1", some (.real r.bound1)),
    ("bound2", r.bound2.map .real)]

theorem encode_eq (r : VoltageRecord) : r.encode = .obj (present r.written) := by
  rw [encode, toList_map_entry]
  rfl

theorem nodup_written (r : VoltageRecord) : (r.written.map Prod.fst).Nodup := by
  change (["operator", "bound1", "bound2"] : List String).Nodup
  decide

theorem reads (o : Origin) (r : VoltageRecord) : (row o).Reads (present r.written) r := by
  have hlookup := lookup_present r.nodup_written
  unfold row
  refine .seq (.seq (.map _ ?operator) ?bound1) ?bound2
  case operator => exact .field (hlookup _) (Operator.decode_name o _)
  case bound1 => exact .field (hlookup _) rfl
  case bound2 => exact .optional .real (hlookup _) fun b _ => rfl

/-- A voltage record reads back, whatever its bounds are. -/
theorem decode_encode (o : Origin) (r : VoltageRecord) : decode o r.encode = .ok r := by
  rw [encode_eq]
  exact (r.reads o).ofPresent r.nodup_written (by simp [written, Value.breaks])

end VoltageRecord

namespace VoltageFilter

/-- The bounds of a filter. -/
def bounds : VoltageFilter → List Binary64
  | .compare _ b => [b]
  | .range low high => [low, high]

theorem finite_of_validate {f : VoltageFilter} (h : f.validate = .ok ()) :
    ∀ b ∈ f.bounds, b.isFinite = true := by
  have hsound := validate_eq_ok_iff.1 h
  cases f with
  | compare c b => exact List.forall_mem_singleton.2 hsound
  | range low high => exact List.forall_mem_cons.2 ⟨hsound.1, List.forall_mem_singleton.2 hsound.2.1⟩

theorem written_encode {f : VoltageFilter} {p : Binary64 → Prop} (h : ∀ b ∈ f.bounds, p b) (n : Nat) :
    f.encode.Written p (n + 1) := by
  rw [encode, VoltageRecord.encode_eq]
  refine written_present ?_
  cases f with
  | compare c b =>
    simp only [VoltageRecord.written, List.forall_mem_cons, Option.mem_some_iff, forall_eq']
    exact ⟨.str _, .real (h b List.mem_cons_self), fun v hv => (by cases hv), List.forall_mem_nil _⟩
  | range low high =>
    obtain ⟨hlow, hhigh⟩ := List.forall_mem_cons.1 h
    simp only [VoltageRecord.written, List.forall_mem_cons, Option.mem_some_iff, forall_eq']
    exact ⟨.str _, .real hlow, forall_mem_map fun b hb => .real (Option.some.inj hb ▸
      hhigh high List.mem_cons_self), List.forall_mem_nil _⟩

end VoltageFilter

/-! ## Descriptions -/

theorem givenPattern_idem (p : Option String) : givenPattern (givenPattern p) = givenPattern p := by
  unfold givenPattern
  rw [Option.filter_filter]
  simp

namespace FilterSpec

/-- The patterns are not blank. -/
theorem Accepted.givenPattern_eq {s : FilterSpec} (h : s.Accepted) :
    givenPattern s.idPattern = s.idPattern ∧ givenPattern s.namePattern = s.namePattern := by
  induction h with
  | @decoded r s h =>
    simp only [ofRecord_eq, bind_eq_ok_iff] at h
    obtain ⟨type, -, single, -, voltage1, -, voltage2, -, countries1, -, countries2, -, h⟩ := h
    obtain rfl := Except.ok.inj h
    exact ⟨givenPattern_idem _, givenPattern_idem _⟩
  | new type => exact ⟨rfl, rfl⟩
  | withIdPattern _ p ih => exact ⟨givenPattern_idem (some p), ih.2⟩
  | withNamePattern _ p ih => exact ⟨ih.1, givenPattern_idem (some p)⟩
  | withVoltage1 _ _ ih => exact ih
  | withVoltage2 _ _ ih => exact ih
  | withCountries1 _ _ ih => exact ih
  | withCountries2 _ _ ih => exact ih

/-- The record that is read from a written description. -/
def record (s : FilterSpec) : FilterRecord where
  type := s.type.name
  idPattern := s.idPattern
  namePattern := s.namePattern
  voltage1 := s.voltage1.map VoltageFilter.record
  voltage2 := s.voltage2.map VoltageFilter.record
  countries1 := s.countries1.codes
  countries2 := s.countries2.codes

/-- From its own record an accepted description is accepted as it is, with the voltage filters that
are accepted. -/
theorem ofRecord_voltages {s s' : FilterSpec} (h : s.Accepted) {v1 v2 : Option VoltageRecord} :
    ofRecord { s.record with voltage1 := v1, voltage2 := v2 } = .ok s' ↔
      v1.mapM VoltageFilter.ofRecord = .ok s'.voltage1 ∧
        v2.mapM VoltageFilter.ofRecord = .ok s'.voltage2 ∧
        s' = { s with voltage1 := s'.voltage1, voltage2 := s'.voltage2 } := by
  obtain ⟨hid, hname⟩ := h.givenPattern_eq
  have hfirst : FilterRecord.first { s.record with voltage1 := v1, voltage2 := v2 } none =
      v1.mapM VoltageFilter.ofRecord := by
    cases v1 <;> rfl
  rw [ofRecord_eq]
  simp only [bind_eq_ok_iff]
  constructor
  · rintro ⟨type, htype, single, hsingle, f1, hf1, f2, hf2, cs1, hcs1, cs2, hcs2, hs⟩
    obtain rfl := Except.ok.inj (htype.symm.trans (EquipmentType.ofName_name s.type))
    obtain rfl := Except.ok.inj hsingle
    obtain rfl := Except.ok.inj (hcs1.symm.trans (CountrySet.ofCodes_codes s.countries1))
    obtain rfl := Except.ok.inj (hcs2.symm.trans (CountrySet.ofCodes_codes s.countries2))
    obtain rfl := Except.ok.inj hs
    refine ⟨hfirst.symm.trans hf1, hf2, ?_⟩
    simp only [record, hid, hname]
  · rintro ⟨hf1, hf2, hs⟩
    refine ⟨s.type, EquipmentType.ofName_name _, none, rfl, _, hfirst.trans hf1, _, hf2, _,
      CountrySet.ofCodes_codes _, _, CountrySet.ofCodes_codes _, ?_⟩
    rw [hs]
    change Except.ok _ = _
    simp only [record, hid, hname]

/-- Valid filters are accepted again from their own records. -/
theorem mapM_ofRecord_record {o : Option VoltageFilter} (h : ∀ f ∈ o, f.validate = .ok ()) :
    (o.map VoltageFilter.record).mapM VoltageFilter.ofRecord = .ok o := by
  rw [optionMapM_eq_ok_iff]
  cases o with
  | none => rfl
  | some f => exact ⟨f, VoltageFilter.ofRecord_record (h f rfl), rfl⟩

/-- An accepted description is accepted again from its own record. -/
theorem ofRecord_record {s : FilterSpec} (h : s.Accepted) : ofRecord s.record = .ok s := by
  obtain ⟨hvalid1, hvalid2⟩ := validate_eq_ok_iff.1 h.validate
  exact (ofRecord_voltages h).2 ⟨mapM_ofRecord_record hvalid1, mapM_ofRecord_record hvalid2, rfl⟩

/-- The entries of a description; what it does not ask for is left out. -/
def written (s : FilterSpec) : List (String × Option Value) :=
  [("equipmentType", some (.str s.type.name)), ("idPattern", s.idPattern.map .str),
    ("namePattern", s.namePattern.map .str),
    ("voltageFilter1", s.voltage1.map VoltageFilter.encode),
    ("voltageFilter2", s.voltage2.map VoltageFilter.encode),
    ("countries1", if s.countries1.isEmpty then none else some s.countries1.encode),
    ("countries2", if s.countries2.isEmpty then none else some s.countries2.encode)]

theorem encode_eq (s : FilterSpec) : s.encode = .obj (present s.written) := by
  have htype : [("equipmentType", Value.str s.type.name)] =
      present [("equipmentType", some (.str s.type.name))] := rfl
  rw [encode, htype, toList_map_entry, toList_map_entry, toList_map_entry, toList_map_entry,
    unless_entry, unless_entry]
  simp only [← present_append]
  rfl

theorem nodup_written (s : FilterSpec) : (s.written.map Prod.fst).Nodup := by
  change (["equipmentType", "idPattern", "namePattern", "voltageFilter1", "voltageFilter2",
    "countries1", "countries2"] : List String).Nodup
  decide

theorem reads (o : Origin) (s : FilterSpec) :
    (FilterRecord.row o).Reads (present s.written) s.record := by
  have hlookup := lookup_present s.nodup_written
  have hvoltage {name : String} {f : Option VoltageFilter}
      (hf : (present s.written).lookup name = f.map VoltageFilter.encode) :
      (Row.optional name (VoltageRecord.decode o)).Reads (present s.written)
        (f.map VoltageFilter.record) := by
    refine .optional VoltageRecord.encode (hf.trans (Option.map_map _ _ _).symm) fun r _ => ?_
    change some <$> VoltageRecord.decode o r.encode = _
    rw [VoltageRecord.decode_encode]
    rfl
  unfold FilterRecord.row
  refine .seq (.seq (.seq (.seq (.seq (.seq (.seq (.seq (.map _ ?type) ?idPattern) ?namePattern)
    ?voltage1) ?voltage2) ?singleVoltage) ?singleOperator) ?countries1) ?countries2
  case type => exact .field (hlookup _) rfl
  case idPattern => exact .optional .str (hlookup _) fun p _ => rfl
  case namePattern => exact .optional .str (hlookup _) fun p _ => rfl
  case voltage1 => exact hvoltage (hlookup _)
  case voltage2 => exact hvoltage (hlookup _)
  case singleVoltage => exact .absent (hlookup _)
  case singleOperator => exact .absent (hlookup _)
  case countries1 => exact CountrySet.reads_codes (hlookup _)
  case countries2 => exact CountrySet.reads_codes (hlookup _)

/-- What is known of texts, voltage filters and countries is known of the values of all entries. -/
theorem forall_written {s : FilterSpec} {P : Value → Prop} (htext : ∀ t, P (.str t))
    (hvoltage : ∀ f : VoltageFilter, f ∈ s.voltage1 ∨ f ∈ s.voltage2 → P f.encode)
    (hcountries : ∀ cs : CountrySet, P cs.encode) : ∀ e ∈ s.written, ∀ v ∈ e.2, P v := by
  simp only [written, List.forall_mem_cons, Option.mem_some_iff, forall_eq']
  exact ⟨htext _, forall_mem_map fun p _ => htext p, forall_mem_map fun p _ => htext p,
    forall_mem_map fun f hf => hvoltage f (.inl hf), forall_mem_map fun f hf => hvoltage f (.inr hf),
    forall_mem_unless (hcountries _), forall_mem_unless (hcountries _), List.forall_mem_nil _⟩

/-- A written description reads as its record, whatever is asked for. -/
theorem decode_record (o : Origin) (s : FilterSpec) :
    (FilterRecord.row o).decode o s.encode = .ok s.record := by
  rw [encode_eq]
  refine (s.reads o).ofPresent s.nodup_written (forall_written (fun _ => rfl) ?_ ?_)
  · intro f _
    cases f <;> rfl
  · exact fun cs => (cs.written_encode (p := fun _ => False) 0).breaks

theorem decode_eq_ok_iff {o : Origin} {v : Value} {s : FilterSpec} :
    decode o v = .ok s ↔ ∃ r, (FilterRecord.row o).decode o v = .ok r ∧ ofRecord r = .ok s := by
  change (do (ofRecord (← (FilterRecord.row o).decode o v)).mapError Fault.rejected) = _ ↔ _
  rw [bind_eq_ok_iff]
  exact exists_congr fun r => and_congr_right fun _ => mapError_eq_ok_iff

theorem accepted_of_decode {o : Origin} {v : Value} {s : FilterSpec} (h : decode o v = .ok s) :
    s.Accepted := by
  obtain ⟨r, -, hr⟩ := decode_eq_ok_iff.1 h
  exact .decoded hr

theorem Accepted.decode_encode {s : FilterSpec} (h : s.Accepted) (o : Origin) :
    decode o s.encode = .ok s :=
  decode_eq_ok_iff.2 ⟨s.record, decode_record o s, ofRecord_record h⟩

/-- The bounds of both voltage filters. -/
def bounds (s : FilterSpec) : List Binary64 :=
  (s.voltage1.toList ++ s.voltage2.toList).flatMap VoltageFilter.bounds

theorem forall_mem_bounds {s : FilterSpec} {P : Binary64 → Prop} :
    (∀ b ∈ s.bounds, P b) ↔
      ∀ f : VoltageFilter, f ∈ s.voltage1 ∨ f ∈ s.voltage2 → ∀ b ∈ f.bounds, P b := by
  simp only [bounds, List.mem_flatMap, List.mem_append, Option.mem_toList, forall_exists_index,
    and_imp]
  exact forall_comm.trans (forall_congr' fun f => forall_comm)

theorem Accepted.finite_bounds {s : FilterSpec} (h : s.Accepted) : ∀ b ∈ s.bounds, b.isFinite = true := by
  obtain ⟨hvalid1, hvalid2⟩ := validate_eq_ok_iff.1 h.validate
  rw [forall_mem_bounds]
  rintro f (hf | hf)
  · exact VoltageFilter.finite_of_validate (hvalid1 f hf)
  · exact VoltageFilter.finite_of_validate (hvalid2 f hf)

theorem written_encode {s : FilterSpec} {p : Binary64 → Prop} (h : ∀ b ∈ s.bounds, p b) (n : Nat) :
    s.encode.Written p (n + 2) := by
  rw [encode_eq]
  refine written_present (forall_written .str (fun f hf => ?_) fun cs => cs.written_encode n)
  exact VoltageFilter.written_encode (forall_mem_bounds.1 h f hf) n

end FilterSpec

end GridOutage.Filter
