import GridOutage.Document.Format
import GridOutage.Proofs.Contingency
import GridOutage.Proofs.Document.JsonRoundTrip
import GridOutage.Proofs.Document.Record
import GridOutage.Proofs.Text.ByteOrder
import Mathlib.Data.List.Sort

/-!
# Contingencies read back

An outage is written under the name of its type, and a contingency leaves out the identifier it does
not have and the set of missing identifiers when nothing is missing. Every contingency is read back
from what is written of it, its elements in their order and as often as they stand.

Only the missing identifiers of a document can stand in another order or repeatedly.
`ContingencyRecord` keeps them as they stand and `Contingency.decode_eq` says that decoding makes a
set of them. Writing that set and decoding it again changes nothing, for a set is determined by its
members (`TextSet.ext_mem`).
-/
namespace GridOutage

open Document

/-! ## Sets of texts -/

namespace TextSet

theorem ext_mem {s t : TextSet} (h : ∀ x, x ∈ s.members ↔ x ∈ t.members) : s = t := by
  have hmembers : s.members = t.members := s.increasing.eq_of_mem_iff t.increasing h
  cases s
  cases t
  cases hmembers
  rfl

theorem ofList_members (s : TextSet) : ofList s.members = s := ext_mem fun _ => mem_ofList

theorem bytes_increasing (s : TextSet) :
    s.members.Pairwise fun x y => Text.bytes x < Text.bytes y :=
  s.increasing.imp Text.bytes_lt_iff.2

end TextSet

/-! ## Outages -/

namespace Outage

theorem written_encode (o : Outage) {p : Binary64 → Prop} (n : Nat) : o.encode.Written p (n + 1) := by
  refine .obj ?_
  simp only [List.forall_mem_cons]
  exact ⟨.str _, .str _, List.forall_mem_nil _⟩

theorem tagName_type (t : EquipmentType) : tagName EquipmentType.names (.str t.name) = .ok t := by
  cases t <;> rfl

theorem decode_encode (o : Outage) : decode o.encode = .ok o := by
  have hsplit : splitRecord "type" (tagName EquipmentType.names) o.encode =
      .ok (o.type, [("id", .str o.id)]) :=
    splitTag_head (tagName_type o.type) (List.forall_mem_singleton.2 ⟨by simp, rfl, rfl⟩)
  have hread : (mk o.type <$> Row.required "id" text).Reads [("id", .str o.id)] o :=
    .map _ (.field rfl rfl)
  rw [decode, hsplit]
  exact hread.ofEntries (by simp) (List.forall_mem_singleton.2 rfl)

end Outage

/-! ## Contingencies as they stand in a document -/

/-- A contingency with its missing identifiers as they stand, in any order and repeatedly. -/
structure ContingencyRecord where
  id : Option String
  elements : List Outage
  missing : List String

namespace ContingencyRecord

def row : Row ContingencyRecord :=
  mk <$> .optional "id" text <*> .required "elements" (list Outage.decode) <*>
    .defaulted "notFoundElements" (list text) []

/-- The contingency that a record stands for. -/
def contingency (r : ContingencyRecord) : Contingency :=
  { id := r.id, elements := r.elements, missing := .ofList r.missing }

end ContingencyRecord

namespace Contingency

theorem row_eq : row = ContingencyRecord.contingency <$> ContingencyRecord.row := by
  have hmissing :
      Row.defaulted "notFoundElements" (fun v => TextSet.ofList <$> list text v) .empty =
        TextSet.ofList <$> Row.defaulted "notFoundElements" (list text) [] :=
    Row.field_map _ _ (some []) _
  rw [row, hmissing, ContingencyRecord.row]
  refine Row.ext rfl fun entries => ?_
  simp only [Row.build_map, Row.build_seq]
  cases (Row.optional "id" text).build entries with
  | error => rfl
  | ok id =>
    cases (Row.required "elements" (list Outage.decode)).build entries with
    | error => rfl
    | ok elements => cases (Row.defaulted "notFoundElements" (list text) []).build entries <;> rfl

theorem decode_eq (o : Origin) (v : Value) :
    decode o v = ContingencyRecord.contingency <$> ContingencyRecord.row.decode o v := by
  rw [decode, row_eq, Row.decode_map]

/-! ## Written contingencies -/

/-- The record that is read from a written contingency. -/
def record (c : Contingency) : ContingencyRecord := ⟨c.id, c.elements, c.missing.members⟩

theorem contingency_record (c : Contingency) : c.record.contingency = c := by
  rw [record, ContingencyRecord.contingency, TextSet.ofList_members]

/-- The entries of a contingency; what it does not have is left out. -/
def written (c : Contingency) : List (String × Option Value) :=
  [("id", c.id.map .str), ("elements", some (.arr (c.elements.map Outage.encode))),
    ("notFoundElements",
      if c.missing.isEmpty then none else some (.arr (c.missing.members.map .str)))]

theorem encode_eq (c : Contingency) : c.encode = .obj (present c.written) := by
  have helements : [("elements", Value.arr (c.elements.map Outage.encode))] =
      present [("elements", some (.arr (c.elements.map Outage.encode)))] := rfl
  rw [encode, toList_map_entry, helements, unless_entry]
  simp only [← present_append]
  rfl

theorem nodup_written (c : Contingency) : (c.written.map Prod.fst).Nodup := by
  change (["id", "elements", "notFoundElements"] : List String).Nodup
  decide

theorem reads (c : Contingency) : ContingencyRecord.row.Reads (present c.written) c.record := by
  have hlookup := lookup_present c.nodup_written
  unfold ContingencyRecord.row
  refine .seq (.seq (.map _ ?id) ?elements) ?missing
  case id => exact .optional .str (hlookup _) fun _ _ => rfl
  case elements => exact .field (hlookup _) (list_map fun o _ => o.decode_encode)
  case missing =>
    refine .texts ((hlookup _).trans ?_)
    change Option.join (some _) = _
    rw [Option.join_some]
    rfl

theorem written_encode (c : Contingency) {p : Binary64 → Prop} (n : Nat) :
    c.encode.Written p (n + 3) := by
  rw [encode_eq]
  refine written_present ?_
  simp only [written, List.forall_mem_cons, Option.mem_some_iff, forall_eq']
  exact ⟨forall_mem_map fun id _ => .str id,
    .arr (List.forall_mem_map.2 fun o _ => o.written_encode n),
    forall_mem_unless (.texts c.missing.members), List.forall_mem_nil _⟩

/-- There are no numbers in a contingency. -/
theorem reread_encode (c : Contingency) : c.encode.reread = c.encode := (c.written_encode 0).reread_eq

theorem decode_encode (o : Origin) (c : Contingency) : decode o c.encode = .ok c := by
  have hwritten := c.written_encode (p := fun _ => False) 0
  have hrecord : ContingencyRecord.row.decode o c.encode = .ok c.record := by
    rw [encode_eq] at hwritten ⊢
    exact c.reads.ofWritten (nodup_present c.nodup_written) hwritten
  rw [decode_eq, hrecord]
  exact congrArg Except.ok c.contingency_record

/-! ## The wire form -/

/-- A contingency survives being written, as a value of any origin and as a JSON text. So a value
that was decoded, written and decoded again gives what it gave at first. What it gives is the record
that stands there, of which the missing identifiers become a set: each of them once, in the order of
their bytes. -/
theorem contingency_reads_back :
    (∀ c : Contingency, (∀ o, decode o c.encode = .ok c) ∧
      decodeJson decode (JsonText.oneLine c.encode) = .ok c ∧
      decodeJson decode (JsonText.pretty c.encode) = .ok c) ∧
    (∀ o o' v, (decode o v >>= fun c => decode o' c.encode) = decode o v) ∧
    (∀ o v, decode o v = ContingencyRecord.contingency <$> ContingencyRecord.row.decode o v) ∧
    ∀ r : ContingencyRecord, r.contingency.id = r.id ∧ r.contingency.elements = r.elements ∧
      (r.contingency.missing.members.Pairwise fun x y => Text.bytes x < Text.bytes y) ∧
      ∀ x, x ∈ r.contingency.missing.members ↔ x ∈ r.missing := by
  refine ⟨fun c => ⟨fun o => c.decode_encode o, ?_, ?_⟩, fun o o' v => ?_, decode_eq, fun r => ?_⟩
  · rw [decodeJson_oneLine (c.written_encode 0), c.reread_encode, c.decode_encode]
  · rw [decodeJson_pretty (c.written_encode 0), c.reread_encode, c.decode_encode]
  · cases decode o v with
    | error e => rfl
    | ok c => exact c.decode_encode o'
  · exact ⟨rfl, rfl, r.contingency.missing.bytes_increasing, fun x => TextSet.mem_ofList⟩

example : decode .json (.obj [("notFoundElements", .arr [.str "B", .str "A", .str "B"]),
    ("elements", .arr [])]) = .ok { elements := [], missing := .ofList ["A", "B"] } := by
  decide +kernel

end Contingency

end GridOutage
