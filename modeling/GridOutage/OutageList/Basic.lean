import GridOutage.Contingency
import GridOutage.Filter.Compile

/-!
# Outage lists (`store` of ctg-contingency)

A list of outages as it is stored: an identifier, a name, the time of its last change and its
content. The content is a filter, groups of identifiers, references to filters kept elsewhere, or
a script. A document may leave out the identifier and the time; `Draft` is a list for which they
may still be open.
-/
namespace GridOutage

open Document (Decoder Row Origin Value Result text list)
open GridOutage.Filter (FilterSpec)

/-- Mirrors `ContingencyListContent`. -/
inductive ListContent where
  /-- One contingency for each element that a filter matches. -/
  | form (spec : FilterSpec)
  /-- One contingency for each group. -/
  | identifiers (groups : List IdentifierGroup)
  /-- Filters that the filter service holds. -/
  | filters (ids : List Uuid)
  /-- A script, kept as it is. -/
  | script (script : String)
  deriving DecidableEq

namespace ListContent

def kind : ListContent → ListKind
  | .form _ => .form
  | .identifiers _ => .identifiers
  | .filters _ => .filters
  | .script _ => .script

/-- The content makes sense: a filter compiles, groups have identifiers of their own, there is at
least one filter, and a script is not blank. Mirrors `validate_content`. -/
def validate : ListContent → Except Error Unit
  | .form spec => do
    let _ ← spec.compile.mapError .rejected
  | .identifiers groups =>
    if groups.any fun g => Text.blank g.id then .error (.list .blankGroup) else .ok ()
  | .filters ids => if ids.isEmpty then .error (.list .noFilter) else .ok ()
  | .script s => if Text.blank s then .error (.list .blankScript) else .ok ()

/-- The entries of a content besides its kind. -/
def row (o : Origin) : ListKind → Row ListContent
  | .form => .form <$> .required "spec" (FilterSpec.decode o)
  | .identifiers => .identifiers <$> .required "groups" (list (IdentifierGroup.decode o))
  | .filters => .filters <$> .required "filters" (list Uuid.decode)
  | .script => .script <$> .required "script" text

def kindNames : List (String × ListKind) := Document.named ListKind.name ListKind.all

/-- A content that stands alone. -/
def decode : Decoder ListContent := fun v => do
  let (kind, entries) ← Document.splitRecord "type" (Document.tagName kindNames) v
  (row .buffered kind).ofEntries entries

/-- The entries of a content. -/
def entries (c : ListContent) : List (String × Value) :=
  ("type", .str c.kind.name) :: match c with
    | .form spec => [("spec", spec.encode)]
    | .identifiers groups => [("groups", .arr (groups.map IdentifierGroup.encode))]
    | .filters ids => [("filters", .arr (ids.map Uuid.encode))]
    | .script s => [("script", .str s)]

end ListContent

/-- A stored list. Mirrors `ContingencyListRecord`. -/
structure OutageList where
  id : Uuid
  name : String
  /-- When the list was last changed. -/
  modified : Instant
  content : ListContent
  deriving DecidableEq

namespace OutageList

def kind (l : OutageList) : ListKind := l.content.kind

def encode (l : OutageList) : Value :=
  .obj ([("id", l.id.encode), ("name", .str l.name), ("modificationDate", l.modified.encode)] ++
    l.content.entries)

/-- A list that may not have an identifier and a time yet. -/
structure Draft where
  id : Option Uuid := none
  name : String
  modified : Option Instant := none
  content : ListContent
  deriving DecidableEq

namespace Draft

/-- The list of a draft. What the draft leaves open is filled in. -/
def complete (d : Draft) (id : Uuid) (now : Instant) : OutageList :=
  { id := d.id.getD id, name := d.name, modified := d.modified.getD now, content := d.content }

/-- The fields of a list besides its content. -/
def head : Row (ListContent → Draft) :=
  (fun id name modified content => { id := id, name := name, modified := modified, content := content }) <$>
    .defaulted "id" (fun v => some <$> Uuid.decode v) none <*> .required "name" text <*>
    .defaulted "modificationDate" (fun v => some <$> Instant.decode v) none

/-- A draft from the entries of an object. The entries of the content stand among the others, so
they are set aside until the fields of the list itself are known to be there. -/
def ofEntries (entries : List (String × Value)) : Result Draft := do
  Document.scan Value.readable head.fields [] entries
  Document.demand entries head.fields
  let others := entries.filter fun (k, _) => !head.fields.any (·.name == k)
  let (kind, rest) ← Document.splitTag "type" (Document.tagNameOrPlace ListContent.kindNames) none
    (Value.settledEntries others)
  return (← head.build entries) (← (ListContent.row .buffered kind).ofEntries rest)

def decode : Decoder Draft
  | .obj entries => ofEntries entries
  | .plain "" => ofEntries []
  | v => .error (Document.mismatch v)

end Draft

end OutageList

end GridOutage
