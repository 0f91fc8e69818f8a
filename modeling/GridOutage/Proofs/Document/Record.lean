import GridOutage.Document.Decode
import GridOutage.Proofs.Document.Written
import GridOutage.Proofs.Outcome

/-!
# Reading records back

A record is written as an object that leaves out what is not there, and read by the names of its
fields. `Row.Reads` says that a row finds its fields among some entries and makes a value of them;
it is put together field by field, as rows are, and then the object decodes to that value
(`Row.Reads.ofEntries`).

* `present`: the entries of an object of which some may be left out.
* `Row.Lawful`: what a row builds of an object is all that it decodes it to.
* `Row.decode_map`: what is made of a record is made of what its row decodes to.
* `textAs_str`, `list_map`, `splitTag_head`: texts, lists and tags read back.
-/
namespace GridOutage.Document

open Outcome

/-! ## Objects -/

/-- The entries of those names whose values are there. -/
def present (fields : List (String × Option Value)) : List (String × Value) :=
  fields.filterMap fun (name, v) => v.map (name, ·)

theorem present_append (fields more : List (String × Option Value)) :
    present (fields ++ more) = present fields ++ present more :=
  List.filterMap_append

/-- An entry that may be left out. -/
theorem toList_map_entry {α : Type} (name : String) (o : Option α) (encode : α → Value) :
    (o.toList.map fun a => (name, encode a)) = present [(name, o.map encode)] := by
  cases o <;> rfl

/-- An entry that is left out when its value is empty. -/
theorem unless_entry (empty : Bool) (name : String) (v : Value) :
    (if empty then [] else [(name, v)]) = present [(name, if empty then none else some v)] := by
  cases empty <;> rfl

theorem mem_present {fields : List (String × Option Value)} {name : String} {v : Value} :
    (name, v) ∈ present fields ↔ (name, some v) ∈ fields := by
  unfold present
  rw [List.mem_filterMap]
  constructor
  · rintro ⟨⟨name', o⟩, hmem, h⟩
    obtain ⟨v', rfl, hv⟩ := Option.map_eq_some_iff.1 h
    obtain ⟨rfl, rfl⟩ := Prod.mk.inj hv
    exact hmem
  · intro h
    exact ⟨_, h, rfl⟩

theorem nodup_present {fields : List (String × Option Value)} (h : (fields.map Prod.fst).Nodup) :
    ((present fields).map Prod.fst).Nodup := by
  refine h.sublist ?_
  induction fields with
  | nil => exact List.Sublist.slnil
  | cons field fields ih =>
    have ih := ih (List.nodup_cons.1 h).2
    obtain ⟨name, o⟩ := field
    cases o with
    | none => exact ih.cons name
    | some v => exact ih.cons_cons name

/-- A name is found exactly when its value is there. -/
theorem lookup_present {fields : List (String × Option Value)} (h : (fields.map Prod.fst).Nodup)
    (name : String) : (present fields).lookup name = (fields.lookup name).join := by
  refine Option.ext fun v => ?_
  rw [lookup_eq_some_iff_mem (nodup_present h), mem_present, ← lookup_eq_some_iff_mem h,
    Option.join_eq_some_iff]

theorem written_present {p : Binary64 → Prop} {n : Nat} {fields : List (String × Option Value)}
    (h : ∀ f ∈ fields, ∀ v ∈ f.2, v.Written p n) : (Value.obj (present fields)).Written p (n + 1) :=
  .obj fun e he => h _ (mem_present.1 he) e.2 rfl

theorem forall_mem_map {α : Type} {P : Value → Prop} {o : Option α} {encode : α → Value}
    (h : ∀ a ∈ o, P (encode a)) : ∀ v ∈ o.map encode, P v := by
  intro v hv
  obtain ⟨a, ha, rfl⟩ := Option.map_eq_some_iff.1 hv
  exact h a ha

theorem forall_mem_unless {P : Value → Prop} {empty : Bool} {v : Value} (h : P v) :
    ∀ w ∈ if empty then none else some v, P w := by
  cases empty with
  | true => exact fun _ hw => by cases hw
  | false => exact fun _ hw => Option.some.inj hw ▸ h

/-! ## Rows -/

namespace Row

variable {α β : Type}

/-- A row finds what it needs among some entries, and makes a value of it. -/
structure Reads (r : Row α) (entries : List (String × Value)) (a : α) : Prop where
  build : r.build entries = .ok a
  check : ∀ f ∈ r.fields, ∀ v ∈ entries.lookup f.name, f.check v = .ok ()
  demand : ∀ f ∈ r.fields, f.required = true → (entries.lookup f.name).isSome = true

variable {entries : List (String × Value)} {name : String}

theorem Reads.seq {f : Row (α → β)} {r : Row α} {g : α → β} {a : α} (hf : f.Reads entries g)
    (hr : r.Reads entries a) : (f <*> r).Reads entries (g a) where
  build := by
    change (do return (← f.build entries) (← r.build entries)) = _
    rw [hf.build, hr.build]
    rfl
  check := List.forall_mem_append.2 ⟨hf.check, hr.check⟩
  demand := List.forall_mem_append.2 ⟨hf.demand, hr.demand⟩

theorem Reads.map {r : Row α} {a : α} (g : α → β) (h : r.Reads entries a) :
    (g <$> r).Reads entries (g a) :=
  Reads.seq (f := Row.pure g)
    ⟨rfl, List.forall_mem_nil _, List.forall_mem_nil _⟩ h

/-- A field whose value is there. -/
theorem Reads.field {d : Decoder α} {absent : Option α} {v : Value} {a : α}
    (hv : entries.lookup name = some v) (ha : d v = .ok a) :
    (Row.field name d absent).Reads entries a where
  build := by
    unfold Row.field
    simp only [hv, ha]
  check := by
    intro f hf w hw
    obtain rfl := List.mem_singleton.1 hf
    obtain rfl : v = w := Option.some.inj (hv.symm.trans hw)
    change (do let _ ← d v) = _
    rw [ha]
    rfl
  demand := by
    intro f hf _
    obtain rfl := List.mem_singleton.1 hf
    exact Option.isSome_iff_exists.2 ⟨v, hv⟩

/-- A field that is left out. -/
theorem Reads.absent {d : Decoder α} {a : α} (hv : entries.lookup name = none) :
    (Row.field name d (some a)).Reads entries a where
  build := by
    unfold Row.field
    simp only [hv]
  check := by
    intro f hf w hw
    obtain rfl := List.mem_singleton.1 hf
    cases hv.symm.trans hw
  demand := by
    intro f hf hrequired
    obtain rfl := List.mem_singleton.1 hf
    cases hrequired

/-- A field that may be left out, where the value is read back if it is there. -/
theorem Reads.optional {d : Decoder α} {o : Option α} (encode : α → Value)
    (hv : entries.lookup name = o.map encode)
    (hd : ∀ a ∈ o, nullable d (encode a) = .ok (some a)) :
    (Row.optional name d).Reads entries o := by
  cases o with
  | none => exact .absent hv
  | some a => exact .field hv (hd a rfl)

/-! ## Objects decode -/

theorem scan_eq_ok {passable : Value → Bool} {fields : List Field} {seen : List String}
    (hkeys : (entries.map Prod.fst).Nodup) (hseen : ∀ e ∈ entries, e.1 ∉ seen)
    (hcheck : ∀ f ∈ fields, ∀ v, (f.name, v) ∈ entries → f.check v = .ok ())
    (hpass : ∀ e ∈ entries, passable e.2 = true) : scan passable fields seen entries = .ok () := by
  induction entries generalizing seen with
  | nil => rfl
  | cons e entries ih =>
    obtain ⟨k, v⟩ := e
    obtain ⟨hk, hkeys⟩ := List.nodup_cons.1 hkeys
    obtain ⟨hkseen, hseen⟩ := List.forall_mem_cons.1 hseen
    obtain ⟨hpassable, hpass⟩ := List.forall_mem_cons.1 hpass
    have hcheck' (f : Field) (hf : f ∈ fields) (w : Value) (hw : (f.name, w) ∈ entries) :=
      hcheck f hf w (List.mem_cons_of_mem _ hw)
    rw [scan]
    cases hfind : fields.find? (·.name == k) with
    | none =>
      simp only [hpassable, if_true]
      exact ih hkeys hseen hcheck' hpass
    | some f =>
      have hname : f.name = k := by simpa using List.find?_some hfind
      have hnot : seen.contains k = false := by simpa using hkseen
      have hok := hcheck f (List.mem_of_find?_eq_some hfind) v (hname ▸ List.mem_cons_self)
      simp only [hnot, hok]
      refine ih hkeys ?_ hcheck' hpass
      -- No later entry has the name that has just been seen.
      intro e he hmem
      rcases List.mem_cons.1 hmem with heq | hmem
      · exact hk (List.mem_map.2 ⟨e, he, heq⟩)
      · exact hseen e he hmem

/-- An entry without a field passes as far as entries of other names have to. -/
theorem passable_of_scan {passable : Value → Bool} {fields : List Field} {seen : List String}
    (h : scan passable fields seen entries = .ok ()) {e : String × Value} (he : e ∈ entries)
    (hother : fields.find? (·.name == e.1) = none) : passable e.2 = true := by
  induction entries generalizing seen with
  | nil => cases he
  | cons d entries ih =>
    obtain ⟨k, v⟩ := d
    rw [scan] at h
    rcases List.mem_cons.1 he with rfl | he
    · rw [hother] at h
      dsimp only at h
      split at h
      · assumption
      · cases h
    · split at h
      · split at h
        · cases h
        · obtain ⟨_, -, h⟩ := bind_eq_ok_iff.1 h
          exact ih h he
      · split at h
        · exact ih h he
        · cases h

theorem demand_eq_ok {fields : List Field}
    (h : ∀ f ∈ fields, f.required = true → (entries.lookup f.name).isSome = true) :
    Document.demand entries fields = .ok () := by
  induction fields with
  | nil => rfl
  | cons f fields ih =>
    obtain ⟨hf, h⟩ := List.forall_mem_cons.1 h
    have hthere : (f.required && (entries.lookup f.name).isNone) = false := by
      cases hr : f.required with
      | false => rfl
      | true => rw [Bool.true_and, Option.isNone_eq_false_iff, hf hr]
    rw [Document.demand, hthere]
    exact ih h

/-- Entries with the fields of a row pass every check of the row's names. -/
theorem Reads.scan {r : Row α} {a : α} (h : r.Reads entries a) {passable : Value → Bool}
    (hkeys : (entries.map Prod.fst).Nodup) (hpass : ∀ e ∈ entries, passable e.2 = true) :
    Document.scan passable r.fields [] entries = .ok () :=
  scan_eq_ok hkeys (fun _ _ => List.not_mem_nil)
    (fun f hf v hv => h.check f hf v ((lookup_eq_some_iff_mem hkeys).2 hv)) hpass

theorem Reads.ofEntries {r : Row α} {a : α} (h : r.Reads entries a)
    (hkeys : (entries.map Prod.fst).Nodup) (hbreaks : ∀ e ∈ entries, e.2.breaks = false) :
    r.ofEntries entries = .ok a := by
  rw [Row.ofEntries, h.scan hkeys fun e he => by rw [hbreaks e he]; rfl, demand_eq_ok h.demand,
    h.build]
  rfl

theorem Reads.ofWritten {r : Row α} {a : α} (h : r.Reads entries a)
    (hkeys : (entries.map Prod.fst).Nodup) {p : Binary64 → Prop} {n : Nat}
    (hwritten : (Value.obj entries).Written p n) :
    r.ofEntries entries = .ok a := by
  cases hwritten with
  | obj hwritten => exact h.ofEntries hkeys fun e he => (hwritten e he).breaks

theorem Reads.ofPresent {fields : List (String × Option Value)} {r : Row α} {a : α}
    (h : r.Reads (present fields) a) (hkeys : (fields.map Prod.fst).Nodup)
    (hbreaks : ∀ f ∈ fields, ∀ v ∈ f.2, v.breaks = false) : r.ofEntries (present fields) = .ok a :=
  h.ofEntries (nodup_present hkeys) fun e he => hbreaks _ (mem_present.1 he) e.2 rfl

/-! ## What a record was built of -/

theorem build_seq_eq_ok_iff {f : Row (α → β)} {r : Row α} {b : β} :
    (f <*> r).build entries = .ok b ↔
      ∃ g a, f.build entries = .ok g ∧ r.build entries = .ok a ∧ g a = b := by
  change (do return (← f.build entries) (← r.build entries)) = Except.ok b ↔ _
  simp only [bind_eq_ok_iff, exists_and_left]
  exact exists_congr fun g => and_congr_right fun _ => exists_congr fun a =>
    and_congr_right fun _ => iff_of_eq (Except.ok.injEq _ _)

theorem build_map_eq_ok_iff {g : α → β} {r : Row α} {b : β} :
    (g <$> r).build entries = .ok b ↔ ∃ a, r.build entries = .ok a ∧ g a = b := by
  change (Row.pure g <*> r).build entries = _ ↔ _
  rw [build_seq_eq_ok_iff]
  constructor
  · rintro ⟨g, a, hg, ha, rfl⟩
    obtain rfl := Except.ok.inj hg
    exact ⟨a, ha, rfl⟩
  · rintro ⟨a, ha, rfl⟩
    exact ⟨g, a, rfl, ha, rfl⟩

/-- A field is decoded, or has the value it has when it is absent. -/
theorem decoded_or_absent {d : Decoder α} {absent : Option α} {a : α}
    (h : (Row.field name d absent).build entries = .ok a) : (∃ v, d v = .ok a) ∨ absent = some a := by
  unfold Row.field at h
  dsimp only at h
  split at h
  · exact .inl ⟨_, h⟩
  · exact .inr (congrArg some (Except.ok.inj h))
  · cases h

/-- The value of a required field that is there. -/
theorem build_required {d : Decoder α} {v : Value} (hv : entries.lookup name = some v) :
    (Row.required name d).build entries = d v := by
  unfold Row.required Row.field
  simp only [hv]

/-- What comes of an optional field, where it is known what comes of its value. -/
theorem build_optional_iff {d : Decoder β} {encode : α → Value} {R : α → β → Prop} {o : Option α}
    (hv : entries.lookup name = o.map encode)
    (hd : ∀ a ∈ o, ∀ r, nullable d (encode a) = .ok r ↔ ∃ b, R a b ∧ r = some b) {r : Option β} :
    (Row.optional name d).build entries = .ok r ↔ Option.Rel R o r := by
  unfold Row.optional Row.field
  cases o with
  | none =>
    rw [Option.map_none] at hv
    simp only [hv]
    constructor
    · rintro ⟨⟩
      exact .none
    · rintro ⟨⟩
      rfl
  | some a =>
    rw [Option.map_some] at hv
    simp only [hv, hd a rfl]
    constructor
    · rintro ⟨b, hb, rfl⟩
      exact .some hb
    · rintro ⟨hb⟩
      exact ⟨_, hb, rfl⟩

theorem build_of_ofEntries {r : Row α} {a : α} (h : r.ofEntries entries = .ok a) :
    r.build entries = .ok a := by
  simp only [ofEntries, bind_eq_ok_iff] at h
  obtain ⟨_, -, _, -, h⟩ := h
  exact h

/-- What a row builds of entries, it finds among them. Rows that are put together of fields are
lawful, so their checks say no more than building does. -/
def Lawful (r : Row α) : Prop := ∀ entries a, r.build entries = .ok a → r.Reads entries a

theorem Lawful.field (name : String) (d : Decoder α) (absent : Option α) :
    (Row.field name d absent).Lawful := by
  intro entries a h
  have hbuild := h
  unfold Row.field at hbuild
  dsimp only at hbuild
  cases hv : entries.lookup name with
  | some v =>
    rw [hv] at hbuild
    exact .field hv hbuild
  | none =>
    rw [hv] at hbuild
    cases absent with
    | some b =>
      obtain rfl := Except.ok.inj hbuild
      exact .absent hv
    | none => cases hbuild

theorem Lawful.seq {f : Row (α → β)} {r : Row α} (hf : f.Lawful) (hr : r.Lawful) :
    (f <*> r).Lawful := by
  intro entries b h
  obtain ⟨g, a, hg, ha, rfl⟩ := build_seq_eq_ok_iff.1 h
  exact (hf _ _ hg).seq (hr _ _ ha)

theorem Lawful.map (g : α → β) {r : Row α} (h : r.Lawful) : (g <$> r).Lawful := by
  intro entries b hb
  obtain ⟨a, ha, rfl⟩ := build_map_eq_ok_iff.1 hb
  exact (h _ _ ha).map g

theorem Lawful.ofEntries_iff {r : Row α} (h : r.Lawful) (hkeys : (entries.map Prod.fst).Nodup)
    (hbreaks : ∀ e ∈ entries, e.2.breaks = false) {a : α} :
    r.ofEntries entries = .ok a ↔ r.build entries = .ok a :=
  ⟨build_of_ofEntries, fun hbuild => (h _ _ hbuild).ofEntries hkeys hbreaks⟩

theorem Lawful.ofPresent_iff {r : Row α} (h : r.Lawful) {fields : List (String × Option Value)}
    (hkeys : (fields.map Prod.fst).Nodup) (hbreaks : ∀ f ∈ fields, ∀ v ∈ f.2, v.breaks = false)
    {a : α} : r.ofEntries (present fields) = .ok a ↔ r.build (present fields) = .ok a :=
  ⟨build_of_ofEntries, fun hbuild => (h _ _ hbuild).ofPresent hkeys hbreaks⟩

/-! ## What is made of a record -/

theorem ext {r s : Row α} (hfields : r.fields = s.fields)
    (hbuild : ∀ entries, r.build entries = s.build entries) : r = s := by
  cases r
  cases s
  cases hfields
  cases funext hbuild
  rfl

theorem build_seq (f : Row (α → β)) (r : Row α) :
    (f <*> r).build entries = f.build entries <*> r.build entries := by
  change (do return (← f.build entries) (← r.build entries)) = _
  cases f.build entries with
  | error e => rfl
  | ok g => cases r.build entries <;> rfl

theorem build_map (g : α → β) (r : Row α) : (g <$> r).build entries = g <$> r.build entries :=
  build_seq (Row.pure g) r

/-- A field of which something is made once it is decoded. -/
theorem field_map (name : String) (d : Decoder α) (absent : Option α) (g : α → β) :
    field name (fun v => g <$> d v) (absent.map g) = g <$> field name d absent := by
  refine ext ?_ fun entries => ?_
  · have hcheck (v : Value) : (do let _ ← g <$> d v) = (do let _ ← d v : Result Unit) := by
      cases d v <;> rfl
    change [_] = [_]
    simp only [hcheck, Option.isNone_map]
  · rw [build_map]
    unfold field
    dsimp only
    cases entries.lookup name with
    | some v => rfl
    | none => cases absent <;> rfl

theorem decode_map (g : α → β) (r : Row α) (o : Origin) (v : Value) :
    (g <$> r).decode o v = g <$> r.decode o v := by
  have hentries (entries : List (String × Value)) :
      (g <$> r).ofEntries entries = g <$> r.ofEntries entries := by
    simp only [ofEntries, build_map, map_bind]
    rfl
  unfold decode
  split
  · exact hentries _
  · exact hentries _
  · split
    · rfl
    · simp only [build_map, map_bind]
      rfl
  · rfl

end Row

/-! ## Texts, lists and tags -/

theorem textAs_str {α : Type} {read : String → Option α} {s : String} {a : α}
    (h : read s = some a) : textAs read (.str s) = .ok a := by
  unfold textAs
  rw [bind_eq_ok_iff]
  exact ⟨s, rfl, by rw [h]⟩

theorem exists_read_of_textAs {α : Type} {read : String → Option α} {v : Value} {a : α}
    (h : textAs read v = .ok a) : ∃ s, read s = some a := by
  obtain ⟨s, -, h⟩ := bind_eq_ok_iff.1 h
  split at h
  · next hs => exact ⟨s, Except.ok.inj h ▸ hs⟩
  · cases h

theorem list_map {α : Type} {d : Decoder α} {encode : α → Value} {l : List α}
    (h : ∀ a ∈ l, d (encode a) = .ok a) : list d (.arr (l.map encode)) = .ok l := by
  change (l.map encode).mapM d = .ok l
  rw [mapM_eq_ok_iff, List.forall₂_map_left_iff, List.forall₂_same]
  exact h

/-- A field with a list of texts that is left out when it is empty. -/
theorem Row.Reads.texts {entries : List (String × Value)} {name : String} {ss : List String}
    (hv : entries.lookup name = if ss.isEmpty then none else some (.arr (ss.map .str))) :
    (Row.defaulted name (list text) []).Reads entries ss := by
  cases ss with
  | nil => exact .absent hv
  | cons s ss => exact .field hv (list_map fun _ _ => rfl)

/-- A tag that comes first is split off, and entries that are already of their types stay. -/
theorem splitTag_head {α : Type} {tag : String} {d : Decoder α} {v : Value} {a : α}
    {rest : List (String × Value)} (hv : d v = .ok a)
    (hrest : ∀ e ∈ rest, e.1 ≠ tag ∧ e.2.readable = true ∧ e.2.settled = e.2) :
    splitTag tag d none ((tag, v) :: rest) = .ok (a, rest) := by
  have hafter : splitTag tag d (some a) rest = .ok (a, rest) := by
    induction rest with
    | nil => rfl
    | cons e rest ih =>
      obtain ⟨⟨htag, hreadable, hsettled⟩, hrest⟩ := List.forall_mem_cons.1 hrest
      rw [splitTag, if_neg htag, if_pos hreadable, ih hrest, hsettled]
      rfl
  rw [splitTag, if_pos rfl, hv]
  exact hafter

end GridOutage.Document
