import GridOutage.OutageList.Basic
import GridOutage.Proofs.Filter.WireForm
import GridOutage.Proofs.Instant
import GridOutage.Proofs.Uuid

/-!
# Lists read back

A stored list is one object: the entries of its content stand beside those of the list itself, and
an identifier or a time that is not found would be made up. Nothing of a written list is missed: the
head of the list and its content each find their own entries, so the draft that is read leaves
nothing open and completes to the list that was written (`Draft.decode_encode`), and a list that was
read, stored and read again is the same (`Draft.decode_complete`). `Draft.decode_writtenWith` says
what is read when the content was changed on the way.
-/
namespace GridOutage

open Document Outcome
open GridOutage.Filter (FilterSpec)

/-! ## Identifiers and times -/

theorem Uuid.decode_encode (u : Uuid) : decode u.encode = .ok u := textAs_str u.ofText?_toText

theorem Instant.decode_encode {t : Instant} (h : t.Valid) : decode t.encode = .ok t :=
  textAs_str (ofText?_toText h)

theorem Instant.valid_of_decode {v : Value} {t : Instant} (h : decode v = .ok t) : t.Valid := by
  obtain ⟨s, hs⟩ := exists_read_of_textAs h
  exact valid_of_ofText? hs

/-! ## Contents -/

namespace IdentifierGroup

theorem reads (g : IdentifierGroup) :
    row.Reads [("id", .str g.id), ("identifiers", .arr (g.identifiers.map .str))] g := by
  unfold row
  refine .seq (.map _ ?id) ?identifiers
  case id => exact .field rfl rfl
  case identifiers => exact .field rfl (list_map fun _ _ => rfl)

theorem written_encode (g : IdentifierGroup) {p : Binary64 → Prop} (n : Nat) :
    g.encode.Written p (n + 2) := by
  refine .obj ?_
  simp only [List.forall_mem_cons]
  exact ⟨.str _, .texts g.identifiers, List.forall_mem_nil _⟩

theorem decode_encode (o : Origin) (g : IdentifierGroup) : decode o g.encode = .ok g :=
  g.reads.ofWritten (by simp) (g.written_encode (p := fun _ => False) 0)

end IdentifierGroup

namespace ListContent

/-- The entry of a content beside its type. -/
def part : ListContent → String × Value
  | .form spec => ("spec", spec.encode)
  | .identifiers groups => ("groups", .arr (groups.map IdentifierGroup.encode))
  | .filters ids => ("filters", .arr (ids.map Uuid.encode))
  | .script s => ("script", .str s)

theorem entries_eq (c : ListContent) : c.entries = [("type", .str c.kind.name), c.part] := by
  cases c <;> rfl

/-- A filter in a content is an accepted one. -/
def Accepted (c : ListContent) : Prop := ∀ spec, c = .form spec → spec.Accepted

theorem Accepted.reads {c : ListContent} (h : c.Accepted) (o : Origin) :
    (row o c.kind).Reads [c.part] c := by
  cases c with
  | form spec => exact .map _ (.field rfl ((h spec rfl).decode_encode o))
  | identifiers groups => exact .map _ (.field rfl (list_map fun g _ => g.decode_encode o))
  | filters ids => exact .map _ (.field rfl (list_map fun u _ => u.decode_encode))
  | script s => exact .map _ (.field rfl rfl)

/-- The bounds in a content. -/
def bounds : ListContent → List Binary64
  | .form spec => spec.bounds
  | _ => []

theorem Accepted.finite_bounds {c : ListContent} (h : c.Accepted) : ∀ b ∈ c.bounds, b.isFinite = true := by
  cases c with
  | form spec => exact (h spec rfl).finite_bounds
  | identifiers | filters | script => exact List.forall_mem_nil _

theorem written_part {c : ListContent} {p : Binary64 → Prop} (h : ∀ b ∈ c.bounds, p b) (n : Nat) :
    c.part.2.Written p (n + 3) := by
  cases c with
  | form spec => exact FilterSpec.written_encode h (n + 1)
  | identifiers groups => exact .arr (List.forall_mem_map.2 fun g _ => g.written_encode n)
  | filters ids => exact .arr (List.forall_mem_map.2 fun _ _ => .str _)
  | script s => exact .str s

theorem part_name (c : ListContent) :
    c.part.1 ∉ ["id", "name", "modificationDate", "type"] := by
  cases c <;> simp [part]

/-- The type of a content is read by its name, also where a place among the types could stand. -/
theorem tagNameOrPlace_kind (k : ListKind) :
    tagNameOrPlace kindNames (.str k.name) = .ok k := by
  cases k <;> rfl

/-- The type of a content is split off, and what stands beside it is not settled. -/
theorem splitTag_part (c : ListContent) {v : Value} (hreadable : v.readable = true)
    (hsettled : v.settled = v) :
    splitTag "type" (tagNameOrPlace kindNames) none
        (Value.settledEntries [("type", .str c.kind.name), (c.part.1, v)]) =
      .ok (c.kind, [(c.part.1, v)]) := by
  have hname : c.part.1 ≠ "type" := by
    intro heq
    exact c.part_name (by simp [heq])
  rw [Value.settledEntries_eq, Value.map_entries_eq_self]
  · exact splitTag_head (tagNameOrPlace_kind c.kind)
      (List.forall_mem_singleton.2 ⟨hname, hreadable, hsettled⟩)
  · exact List.forall_mem_cons.2 ⟨rfl, List.forall_mem_singleton.2 hsettled⟩

theorem Accepted.ofEntries_part {c : ListContent} (h : c.Accepted) (o : Origin) :
    (row o c.kind).ofEntries [c.part] = .ok c := by
  refine (h.reads o).ofEntries (List.pairwise_singleton _ _) ?_
  exact List.forall_mem_singleton.2 (written_part h.finite_bounds 0).breaks

/-- A filter in a content that was read is an accepted one. -/
theorem accepted_of_ofEntries {o : Origin} {k : ListKind} {entries : List (String × Value)}
    {c : ListContent} (h : (row o k).ofEntries entries = .ok c) : c.Accepted := by
  have hbuild := Row.build_of_ofEntries h
  rintro spec rfl
  cases k with
  | form =>
    obtain ⟨_, hspec, heq⟩ := Row.build_map_eq_ok_iff.1 hbuild
    obtain rfl := ListContent.form.inj heq
    rcases Row.decoded_or_absent hspec with ⟨v, hv⟩ | hnone
    · exact FilterSpec.accepted_of_decode hv
    · cases hnone
  | identifiers =>
    obtain ⟨_, -, heq⟩ := Row.build_map_eq_ok_iff.1 hbuild
    cases heq
  | filters =>
    obtain ⟨_, -, heq⟩ := Row.build_map_eq_ok_iff.1 hbuild
    cases heq
  | script =>
    obtain ⟨_, -, heq⟩ := Row.build_map_eq_ok_iff.1 hbuild
    cases heq

end ListContent

/-! ## Lists -/

namespace OutageList

/-- The entries of a list, with a value in the place of its content. -/
def writtenWith (l : OutageList) (v : Value) : List (String × Value) :=
  [("id", l.id.encode), ("name", .str l.name), ("modificationDate", l.modified.encode),
    ("type", .str l.content.kind.name), (l.content.part.1, v)]

theorem encode_eq (l : OutageList) : l.encode = .obj (l.writtenWith l.content.part.2) := by
  rw [encode, ListContent.entries_eq]
  rfl

section

variable {l : OutageList} {v : Value}

theorem nodup_writtenWith : ((l.writtenWith v).map Prod.fst).Nodup := by
  have hpart := l.content.part_name
  have hhead : (["id", "name", "modificationDate", "type"] : List String).Nodup := by decide
  refine List.nodup_append.2 ⟨hhead, List.pairwise_singleton _ _, ?_⟩
  rintro a ha b hb rfl
  exact hpart (List.mem_singleton.1 hb ▸ ha)

/-- What is known of texts and of the value of the content is known of all entries. -/
theorem forall_writtenWith {P : Value → Prop} (htext : ∀ t, P (.str t)) (hv : P v) :
    ∀ e ∈ l.writtenWith v, P e.2 := by
  simp only [writtenWith, List.forall_mem_cons]
  exact ⟨htext _, htext _, htext _, htext _, hv, List.forall_mem_nil _⟩

theorem written_encode {p : Binary64 → Prop} (h : ∀ b ∈ l.content.bounds, p b) (n : Nat) :
    l.encode.Written p (n + 4) := by
  rw [encode_eq]
  exact .obj (forall_writtenWith .str (ListContent.written_part h n))

end

namespace Draft

/-- The draft that has everything a list has. -/
def ofList (l : OutageList) : Draft :=
  { id := some l.id, name := l.name, modified := some l.modified, content := l.content }

section

variable {l : OutageList} {v : Value}

theorem reads_head (h : l.modified.Valid) :
    head.Reads (l.writtenWith v) fun c => { ofList l with content := c } := by
  unfold head
  refine .seq (.seq (.map _ ?id) ?name) ?modified
  case id =>
    refine .field rfl ?_
    rw [Uuid.decode_encode]
    rfl
  case name => exact .field rfl rfl
  case modified =>
    refine .field rfl ?_
    rw [Instant.decode_encode h]
    rfl

/-- What the head of a list does not name is its content. -/
theorem others_writtenWith :
    ((l.writtenWith v).filter fun (k, _) => !head.fields.any (·.name == k)) =
      [("type", .str l.content.kind.name), (l.content.part.1, v)] := by
  unfold writtenWith
  cases l.content <;> rfl

/-- A list is read as its head with the content that is read of the value in its place. -/
theorem decode_writtenWith (hmodified : l.modified.Valid) (hreadable : v.readable = true)
    (hsettled : v.settled = v) :
    decode (.obj (l.writtenWith v)) = (fun c => { ofList l with content := c }) <$>
      (ListContent.row .buffered l.content.kind).ofEntries [(l.content.part.1, v)] := by
  have hhead := reads_head (v := v) hmodified
  have hscan := hhead.scan nodup_writtenWith
    (forall_writtenWith (P := (Value.readable · = true)) (fun _ => rfl) hreadable)
  change ofEntries (l.writtenWith v) = _
  unfold ofEntries
  rw [hscan, Row.demand_eq_ok hhead.demand, others_writtenWith]
  dsimp only
  rw [l.content.splitTag_part hreadable hsettled, hhead.build]
  change ((ListContent.row .buffered l.content.kind).ofEntries [(l.content.part.1, v)] >>= _) = _
  cases (ListContent.row .buffered l.content.kind).ofEntries [(l.content.part.1, v)] <;> rfl

/-- A written list is read as a draft that leaves nothing open. -/
theorem decode_encode (h : l.content.Accepted) (hmodified : l.modified.Valid) :
    decode l.encode = .ok (ofList l) := by
  have hpart : l.content.part.2.Written (·.isFinite) 3 := ListContent.written_part h.finite_bounds 0
  rw [encode_eq, decode_writtenWith hmodified hpart.readable hpart.settled, h.ofEntries_part]
  rfl

end

/-- The time of a list that was read is one that a text can give. -/
theorem valid_of_head {entries : List (String × Value)} {make : ListContent → Draft}
    (h : head.build entries = .ok make) (c : ListContent) :
    (make c).content = c ∧ ∀ t ∈ (make c).modified, t.Valid := by
  obtain ⟨_, modified, hfront, hmodified, rfl⟩ := Row.build_seq_eq_ok_iff.1 h
  obtain ⟨_, name, hid, -, rfl⟩ := Row.build_seq_eq_ok_iff.1 hfront
  obtain ⟨id, -, rfl⟩ := Row.build_map_eq_ok_iff.1 hid
  refine ⟨rfl, fun t ht => ?_⟩
  obtain rfl : modified = some t := ht
  rcases Row.decoded_or_absent hmodified with ⟨v, hv⟩ | hnone
  · obtain ⟨_, hread, heq⟩ := map_eq_ok_iff.1 hv
    obtain rfl := Option.some.inj heq
    exact Instant.valid_of_decode hread
  · cases hnone

theorem accepted_of_decode {v : Value} {d : Draft} (h : decode v = .ok d) :
    d.content.Accepted ∧ ∀ t ∈ d.modified, t.Valid := by
  obtain ⟨entries, h⟩ : ∃ entries, ofEntries entries = .ok d := by
    unfold decode at h
    split at h
    · exact ⟨_, h⟩
    · exact ⟨_, h⟩
    · cases h
  simp only [ofEntries, bind_eq_ok_iff] at h
  obtain ⟨_, -, _, -, ⟨kind, rest⟩, -, make, hmake, content, hcontent, h⟩ := h
  obtain rfl := Except.ok.inj h
  obtain ⟨hsame, hvalid⟩ := valid_of_head hmake content
  rw [hsame]
  exact ⟨ListContent.accepted_of_ofEntries hcontent, hvalid⟩

/-- What was read can be stored: completed at a time that a text can give, it reads back. -/
theorem decode_complete {v : Value} {d : Draft} (h : decode v = .ok d) (id : Uuid) {now : Instant}
    (hnow : now.Valid) : decode (d.complete id now).encode = .ok (ofList (d.complete id now)) := by
  obtain ⟨haccepted, hvalid⟩ := accepted_of_decode h
  refine decode_encode haccepted ?_
  cases hd : d.modified with
  | none => rwa [complete, hd]
  | some t => simpa [complete, hd] using hvalid t hd

end Draft

end OutageList

end GridOutage
