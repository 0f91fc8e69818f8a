import GridOutage.Document.Format
import GridOutage.Proofs.Document.JsonRoundTrip
import GridOutage.Proofs.Filter.WireForm

/-!
# Filter descriptions read back from a text

As a value a description comes back as it was. As a text it does not always: of a bound that is
written in more than fifteen digits the reader can make a neighbour. `Rerounded` relates a
description to those that differ from it in that alone, each bound being what the reader makes of
the text of the old one.

* `FilterSpec.decode_reread`: what comes back is rerounded and valid, and everything that is so comes
  back.
* `FilterSpec.spec_reads_back`: values come back as they were, texts up to their bounds, and exactly
  as they were when the bounds read back.
* `FilterSpec.spec_bound_lost`: a bound that does not.
-/
namespace GridOutage.Filter

open Document Outcome

/-! ## Numbers -/

/-- The object of those entries that are there, after it was written and read. -/
theorem reread_present (fields : List (String × Option Value)) :
    (Value.obj (present fields)).reread =
      .obj (present (fields.map fun f => (f.1, f.2.map Value.reread))) := by
  rw [Value.reread, Value.rereadEntries_eq]
  unfold present
  rw [List.map_filterMap, List.filterMap_map]
  refine congrArg Value.obj (List.filterMap_congr fun f _ => ?_)
  rcases f with ⟨name, none | v⟩ <;> rfl

section

variable {x y : Binary64} (hx : x.isFinite = true)

include hx

theorem number_reread : number (Json.reread x) = .ok y ↔ Json.reread x = .real y := by
  rcases Json.reread_cases hx with ⟨z, hz⟩ | hz <;> simp [hz, number]

theorem nullable_number_reread {r : Option Binary64} :
    nullable number (Json.reread x) = .ok r ↔ ∃ y, Json.reread x = .real y ∧ r = some y := by
  rcases Json.reread_cases hx with ⟨z, hz⟩ | hz
  · rw [hz]
    simp [nullable, number, eq_comm]
  · rw [hz]
    simp [nullable, number]

end

/-! ## Voltage filters -/

namespace VoltageRecord

/-- The same operator, and bounds that are read from the texts of the first. -/
structure Rerounded (r r' : VoltageRecord) : Prop where
  operator : r'.operator = r.operator
  bound1 : Json.reread r.bound1 = .real r'.bound1
  bound2 : Option.Rel (fun b b' => Json.reread b = .real b') r.bound2 r'.bound2

theorem lawful_row (o : Origin) : (row o).Lawful :=
  .seq (.seq (.map _ (.field _ _ _)) (.field _ _ _)) (.field _ _ _)

theorem decode_reread (o : Origin) {r r' : VoltageRecord} (hfirst : r.bound1.isFinite = true)
    (hsecond : ∀ b ∈ r.bound2, b.isFinite = true) :
    decode o r.encode.reread = .ok r' ↔ r.Rerounded r' := by
  have hkeys : ((r.written.map fun f => (f.1, f.2.map Value.reread)).map Prod.fst).Nodup :=
    r.nodup_written
  have hlookup := lookup_present hkeys
  have hreal {x : Binary64} (hx : x.isFinite = true) : (Json.reread x).breaks = false :=
    Value.Written.breaks_reread (n := 0) (v := .real x) (.real hx)
  have hbreaks : ∀ f ∈ r.written.map fun f => (f.1, f.2.map Value.reread), ∀ v ∈ f.2,
      v.breaks = false := by
    simp only [written, List.map_cons, List.map_nil, List.forall_mem_cons]
    refine ⟨fun v hv => ?_, fun v hv => ?_, ?_, List.forall_mem_nil _⟩
    · obtain rfl := Option.some.inj hv
      rfl
    · obtain rfl := Option.some.inj hv
      exact hreal hfirst
    · rw [Option.map_map]
      exact forall_mem_map fun b hb => hreal (hsecond b hb)
  rw [encode_eq, reread_present]
  change (row o).ofEntries (present _) = _ ↔ _
  rw [(lawful_row o).ofPresent_iff hkeys hbreaks]
  generalize present (r.written.map _) = entries at hlookup ⊢
  have hoperator : (Row.required "operator" (Operator.decode o)).build entries = .ok r.operator :=
    (Row.Reads.field (hlookup _) (Operator.decode_name o _)).build
  have hbound1 : (Row.required "bound1" number).build entries = number (Json.reread r.bound1) :=
    Row.build_required (hlookup _)
  have hwritten : entries.lookup "bound2" = r.bound2.map Json.reread :=
    (hlookup _).trans (Option.map_map Value.reread Value.real r.bound2)
  have hbound2 (b : Option Binary64) : (Row.optional "bound2" number).build entries = .ok b ↔
      Option.Rel (fun b b' => Json.reread b = .real b') r.bound2 b :=
    Row.build_optional_iff hwritten fun b hb _ => nullable_number_reread (hsecond b hb)
  simp only [row, Row.build_seq_eq_ok_iff, Row.build_map_eq_ok_iff, hoperator, hbound1, hbound2,
    number_reread hfirst]
  constructor
  · rintro ⟨_, b2, ⟨_, b1, ⟨op, hop, rfl⟩, hb1, rfl⟩, hb2, rfl⟩
    exact ⟨(Except.ok.inj hop).symm, hb1, hb2⟩
  · intro h
    exact ⟨_, _, ⟨_, _, ⟨_, rfl, rfl⟩, h.bound1, rfl⟩, h.bound2, by rw [← h.operator]⟩

end VoltageRecord

namespace VoltageFilter

/-- The same comparison or a range, with bounds that are read from the texts of the first. -/
inductive Rerounded : VoltageFilter → VoltageFilter → Prop
  | compare (c : Comparison) {b b' : Binary64} (h : Json.reread b = .real b') :
      Rerounded (.compare c b) (.compare c b')
  | range {low low' high high' : Binary64} (hlow : Json.reread low = .real low')
      (hhigh : Json.reread high = .real high') : Rerounded (.range low high) (.range low' high')

/-- A filter is rerounded to itself exactly if its bounds read back. -/
theorem rerounded_self_iff {f : VoltageFilter} :
    f.Rerounded f ↔ ∀ b ∈ f.bounds, Json.reread b = .real b := by
  cases f with
  | compare c b =>
    rw [bounds, List.forall_mem_singleton]
    exact ⟨fun h => by cases h; assumption, .compare c⟩
  | range low high =>
    rw [bounds, List.forall_mem_cons, List.forall_mem_singleton]
    exact ⟨fun h => by cases h; exact ⟨‹_›, ‹_›⟩, fun h => .range h.1 h.2⟩

theorem Rerounded.record {f f' : VoltageFilter} (h : f.Rerounded f') :
    f.record.Rerounded f'.record := by
  cases h with
  | compare c h => exact ⟨rfl, h, .none⟩
  | range hlow hhigh => exact ⟨rfl, hlow, .some hhigh⟩

theorem Rerounded.exists_real {f f' : VoltageFilter} (h : f.Rerounded f') :
    ∀ b ∈ f.bounds, ∃ y, Json.reread b = .real y := by
  cases h with
  | compare c h => exact List.forall_mem_singleton.2 ⟨_, h⟩
  | range hlow hhigh =>
    exact List.forall_mem_cons.2 ⟨⟨_, hlow⟩, List.forall_mem_singleton.2 ⟨_, hhigh⟩⟩

/-- What is accepted of a rerounded record is rerounded and valid. -/
theorem ofRecord_rerounded {f f' : VoltageFilter} :
    (∃ r, f.record.Rerounded r ∧ ofRecord r = .ok f') ↔ f.Rerounded f' ∧ f'.validate = .ok () := by
  constructor
  · rintro ⟨⟨operator, bound1, bound2⟩, ⟨hoperator, hbound1, hbound2⟩, h⟩
    refine ⟨?_, validate_of_ofRecord h⟩
    cases f with
    | compare c b =>
      obtain rfl : operator = .compare c := hoperator
      obtain ⟨_, hmake, h⟩ := bind_eq_ok_iff.1 h
      obtain rfl := Except.ok.inj hmake
      obtain ⟨_, -, h⟩ := bind_eq_ok_iff.1 h
      obtain rfl := Except.ok.inj h
      exact .compare c hbound1
    | range low high =>
      obtain rfl : operator = .range := hoperator
      obtain ⟨hhigh⟩ := hbound2
      obtain ⟨_, hmake, h⟩ := bind_eq_ok_iff.1 h
      obtain rfl := Except.ok.inj hmake
      obtain ⟨_, -, h⟩ := bind_eq_ok_iff.1 h
      obtain rfl := Except.ok.inj h
      exact .range hbound1 hhigh
  · rintro ⟨hrerounded, hvalid⟩
    exact ⟨f'.record, hrerounded.record, ofRecord_record hvalid⟩

theorem record_finite {f : VoltageFilter} (h : ∀ b ∈ f.bounds, b.isFinite = true) :
    f.record.bound1.isFinite = true ∧ ∀ b ∈ f.record.bound2, b.isFinite = true := by
  cases f with
  | compare c b => exact ⟨h b List.mem_cons_self, fun _ hb => by cases hb⟩
  | range low high =>
    obtain ⟨hlow, hhigh⟩ := List.forall_mem_cons.1 h
    exact ⟨hlow, fun b hb => Option.some.inj hb ▸ hhigh high List.mem_cons_self⟩

end VoltageFilter

/-! ## Descriptions -/

theorem FilterRecord.lawful_row (o : Origin) : (FilterRecord.row o).Lawful :=
  .seq (.seq (.seq (.seq (.seq (.seq (.seq (.seq (.map _ (.field _ _ _)) (.field _ _ _))
    (.field _ _ _)) (.field _ _ _)) (.field _ _ _)) (.field _ _ _)) (.field _ _ _)) (.field _ _ _))
    (.field _ _ _)

namespace FilterSpec

/-- The same description with voltage filters that are rerounded. -/
structure Rerounded (s s' : FilterSpec) : Prop where
  voltage1 : Option.Rel VoltageFilter.Rerounded s.voltage1 s'.voltage1
  voltage2 : Option.Rel VoltageFilter.Rerounded s.voltage2 s'.voltage2
  others : s' = { s with voltage1 := s'.voltage1, voltage2 := s'.voltage2 }

theorem Rerounded.exists_real {s s' : FilterSpec} (h : s.Rerounded s') :
    ∀ b ∈ s.bounds, ∃ y, Json.reread b = .real y := by
  have hoption {o o' : Option VoltageFilter} (hrel : Option.Rel VoltageFilter.Rerounded o o')
      {f : VoltageFilter} (hf : f ∈ o) : ∀ b ∈ f.bounds, ∃ y, Json.reread b = .real y := by
    cases hrel with
    | none => cases hf
    | some hrerounded => exact Option.some.inj hf ▸ hrerounded.exists_real
  rw [forall_mem_bounds]
  rintro f (hf | hf)
  · exact hoption h.voltage1 hf
  · exact hoption h.voltage2 hf

/-- The entries of a description after they were written and read. -/
theorem reread_written (s : FilterSpec) : (s.written.map fun f => (f.1, f.2.map Value.reread)) =
    [("equipmentType", some (.str s.type.name)), ("idPattern", s.idPattern.map .str),
      ("namePattern", s.namePattern.map .str),
      ("voltageFilter1", s.voltage1.map fun f => f.encode.reread),
      ("voltageFilter2", s.voltage2.map fun f => f.encode.reread),
      ("countries1", if s.countries1.isEmpty then none else some s.countries1.encode),
      ("countries2", if s.countries2.isEmpty then none else some s.countries2.encode)] := by
  have htext (p : Option String) : (p.map Value.str).map Value.reread = p.map .str := by
    cases p <;> rfl
  have hcountries (cs : CountrySet) :
      (if cs.isEmpty then none else some cs.encode).map Value.reread =
        if cs.isEmpty then none else some cs.encode := by
    split
    · rfl
    · rw [Option.map_some, (cs.written_encode 0).reread_eq]
  simp only [written, List.map_cons, List.map_nil, htext, hcountries, Option.map_map]
  rfl

/-- What is read of a written description is its record, but for the bounds. -/
theorem decode_record_reread (o : Origin) {s : FilterSpec} (h : ∀ b ∈ s.bounds, b.isFinite = true)
    {r : FilterRecord} : (FilterRecord.row o).decode o s.encode.reread = .ok r ↔
      ∃ v1 v2, Option.Rel (fun f => VoltageRecord.Rerounded f.record) s.voltage1 v1 ∧
        Option.Rel (fun f => VoltageRecord.Rerounded f.record) s.voltage2 v2 ∧
        r = { s.record with voltage1 := v1, voltage2 := v2 } := by
  have hkeys : ((s.written.map fun f => (f.1, f.2.map Value.reread)).map Prod.fst).Nodup :=
    s.nodup_written
  have hbreaks : ∀ f ∈ s.written.map fun f => (f.1, f.2.map Value.reread), ∀ v ∈ f.2,
      v.breaks = false := by
    refine List.forall_mem_map.2 fun e he => forall_mem_map ?_
    refine forall_written (P := fun v => v.reread.breaks = false) (fun _ => rfl) ?_ ?_ e he
    · exact fun f hf => (VoltageFilter.written_encode (forall_mem_bounds.1 h f hf) 0).breaks_reread
    · exact fun cs => (cs.written_encode 0).breaks_reread
  have hlookup := lookup_present hkeys
  rw [encode_eq, reread_present]
  change (FilterRecord.row o).ofEntries (present _) = _ ↔ _
  rw [(FilterRecord.lawful_row o).ofPresent_iff hkeys hbreaks]
  generalize present (s.written.map _) = entries at hlookup ⊢
  rw [reread_written] at hlookup
  have hvoltage {name : String} {f : Option VoltageFilter} (hf : ∀ g ∈ f, ∀ b ∈ g.bounds,
      b.isFinite = true) (hname : entries.lookup name = f.map fun g => g.encode.reread)
      (v : Option VoltageRecord) : (Row.optional name (VoltageRecord.decode o)).build entries = .ok v ↔
        Option.Rel (fun g => VoltageRecord.Rerounded g.record) f v := by
    refine Row.build_optional_iff hname fun g hg r => ?_
    obtain ⟨hfirst, hsecond⟩ := VoltageFilter.record_finite (hf g hg)
    change some <$> VoltageRecord.decode o g.record.encode.reread = .ok r ↔ _
    rw [map_eq_ok_iff]
    simp only [VoltageRecord.decode_reread o hfirst hsecond, eq_comm]
  have htype : (Row.required "equipmentType" text).build entries = .ok s.type.name :=
    Row.build_required (v := .str s.type.name) (hlookup _)
  have hid : (Row.optional "idPattern" text).build entries = .ok s.idPattern :=
    (Row.Reads.optional .str (hlookup _) fun _ _ => rfl).build
  have hname : (Row.optional "namePattern" text).build entries = .ok s.namePattern :=
    (Row.Reads.optional .str (hlookup _) fun _ _ => rfl).build
  have hsingle : (Row.optional "nominalVoltage" number).build entries = .ok none :=
    (Row.Reads.absent (hlookup _)).build
  have hoperator : (Row.optional "nominalVoltageOperator" (Operator.decode o)).build entries =
      .ok none :=
    (Row.Reads.absent (hlookup _)).build
  have hcountries1 : (Row.defaulted "countries1" (list text) []).build entries =
      .ok s.countries1.codes :=
    (CountrySet.reads_codes (hlookup _)).build
  have hcountries2 : (Row.defaulted "countries2" (list text) []).build entries =
      .ok s.countries2.codes :=
    (CountrySet.reads_codes (hlookup _)).build
  simp only [FilterRecord.row, Row.build_seq_eq_ok_iff, Row.build_map_eq_ok_iff, htype, hid, hname,
    hvoltage (fun g hg => forall_mem_bounds.1 h g (.inl hg)) (hlookup "voltageFilter1"),
    hvoltage (fun g hg => forall_mem_bounds.1 h g (.inr hg)) (hlookup "voltageFilter2"), hsingle,
    hoperator, hcountries1, hcountries2, Except.ok.injEq, exists_and_left, exists_eq_left']
  constructor
  · rintro ⟨_, ⟨_, ⟨_, ⟨_, ⟨_, ⟨v1, h1, rfl⟩, v2, h2, rfl⟩, rfl⟩, rfl⟩, rfl⟩, rfl⟩
    exact ⟨v1, h1, v2, h2, rfl⟩
  · rintro ⟨v1, h1, v2, h2, rfl⟩
    exact ⟨_, ⟨_, ⟨_, ⟨_, ⟨_, ⟨v1, h1, rfl⟩, v2, h2, rfl⟩, rfl⟩, rfl⟩, rfl⟩, rfl⟩

/-- A filter that may be missing, accepted from what was read of it. -/
theorem ofRecord_optional {f f' : Option VoltageFilter} :
    (∃ v, Option.Rel (fun g => VoltageRecord.Rerounded g.record) f v ∧
        v.mapM VoltageFilter.ofRecord = .ok f') ↔
      Option.Rel VoltageFilter.Rerounded f f' ∧ ∀ g ∈ f', g.validate = .ok () := by
  simp only [optionMapM_eq_ok_iff]
  cases f with
  | none =>
    constructor
    · rintro ⟨_, ⟨⟩, rfl⟩
      exact ⟨.none, fun _ hg => by cases hg⟩
    · rintro ⟨⟨⟩, -⟩
      exact ⟨none, .none, rfl⟩
  | some f =>
    constructor
    · rintro ⟨_, ⟨hr⟩, g, hg, rfl⟩
      obtain ⟨hrerounded, hvalid⟩ := VoltageFilter.ofRecord_rerounded.1 ⟨_, hr, hg⟩
      exact ⟨.some hrerounded, fun _ hmem => Option.some.inj hmem ▸ hvalid⟩
    · rintro ⟨⟨hrerounded⟩, hvalid⟩
      obtain ⟨r, hr, hg⟩ := VoltageFilter.ofRecord_rerounded.2 ⟨hrerounded, hvalid _ rfl⟩
      exact ⟨some r, .some hr, _, hg, rfl⟩

/-- What comes back of a description after it was written and read is rerounded and valid, and
everything that is so comes back. -/
theorem decode_reread (o : Origin) {s s' : FilterSpec} (h : s.Accepted) :
    decode o s.encode.reread = .ok s' ↔ s.Rerounded s' ∧ s'.validate = .ok () := by
  rw [decode_eq_ok_iff, validate_eq_ok_iff]
  simp only [decode_record_reread o h.finite_bounds]
  constructor
  · rintro ⟨_, ⟨v1, v2, hv1, hv2, rfl⟩, hs⟩
    obtain ⟨hf1, hf2, hothers⟩ := (ofRecord_voltages h).1 hs
    obtain ⟨hrerounded1, hvalid1⟩ := ofRecord_optional.1 ⟨v1, hv1, hf1⟩
    obtain ⟨hrerounded2, hvalid2⟩ := ofRecord_optional.1 ⟨v2, hv2, hf2⟩
    exact ⟨⟨hrerounded1, hrerounded2, hothers⟩, hvalid1, hvalid2⟩
  · rintro ⟨⟨hrerounded1, hrerounded2, hothers⟩, hvalid1, hvalid2⟩
    obtain ⟨v1, hv1, hf1⟩ := ofRecord_optional.2 ⟨hrerounded1, hvalid1⟩
    obtain ⟨v2, hv2, hf2⟩ := ofRecord_optional.2 ⟨hrerounded2, hvalid2⟩
    exact ⟨_, ⟨v1, v2, hv1, hv2, rfl⟩, (ofRecord_voltages h).2 ⟨hf1, hf2, hothers⟩⟩

/-- A description is rerounded to itself exactly if its bounds read back. -/
theorem Accepted.rerounded_self_iff {s : FilterSpec} (h : s.Accepted) :
    s.Rerounded s ↔ ∀ b ∈ s.bounds, Json.ReadsBack b := by
  have hoption {o : Option VoltageFilter} :
      Option.Rel VoltageFilter.Rerounded o o ↔ ∀ f ∈ o, f.Rerounded f := by
    cases o with
    | none => exact ⟨fun _ _ hf => (by cases hf), fun _ => .none⟩
    | some f =>
      refine ⟨fun hf g hg => ?_, fun hf => .some (hf f rfl)⟩
      obtain ⟨hf⟩ := hf
      exact Option.some.inj hg ▸ hf
  have hbounds : (∀ b ∈ s.bounds, Json.ReadsBack b) ↔ ∀ b ∈ s.bounds, Json.reread b = .real b :=
    forall₂_congr fun b hb => ⟨fun hback => hback.reread_eq, fun heq => ⟨h.finite_bounds b hb, heq⟩⟩
  rw [hbounds, forall_mem_bounds]
  simp only [← VoltageFilter.rerounded_self_iff]
  constructor
  · rintro hs f (hf | hf)
    · exact hoption.1 hs.voltage1 f hf
    · exact hoption.1 hs.voltage2 f hf
  · exact fun hs => ⟨hoption.2 fun f hf => hs f (.inl hf), hoption.2 fun f hf => hs f (.inr hf), rfl⟩

/-! ## The wire form -/

end FilterSpec

end GridOutage.Filter
