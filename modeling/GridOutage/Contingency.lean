import GridOutage.Document.Elements
import GridOutage.Error
import GridOutage.Text.Set

/-!
# Contingencies (`assembler` and `element` of ctg-contingency)

A contingency is a set of outages that happen together. Its elements keep the order in which they
were matched, and identifiers that were asked for and not matched are kept beside them, so a
contingency without elements still says what it was meant to trip.

* `assemble`: one contingency of matched elements and requested identifiers.
* `perElement`: one contingency for each matched element, named after it.
* `perGroup`: one contingency for each group of identifiers.
-/
namespace GridOutage

open Document (Decoder Row Origin Value text list)

/-- One outage: an element with its type. Mirrors `ContingencyElement`. -/
structure Outage where
  type : EquipmentType
  id : String
  deriving DecidableEq

namespace Outage

/-- The outage of an element, unless its kind cannot be tripped. -/
def ofAttributes (a : Attributes) : Except Error Outage :=
  match a.kind.type? with
  | some type => .ok { type := type, id := a.id }
  | none => .error (.notTrippable a.id a.kind)

def encode (o : Outage) : Value := .obj [("type", .str o.type.name), ("id", .str o.id)]

/-- The type comes first whatever its place; the rest is read as the record of that type. -/
def decode : Decoder Outage := fun v => do
  let (type, entries) ← Document.splitRecord "type" (Document.tagName EquipmentType.names) v
  Row.ofEntries (.mk type <$> .required "id" text) entries

end Outage

/-- Mirrors `ContingencyInfos`. -/
structure Contingency where
  id : Option String := none
  elements : List Outage
  /-- Identifiers that were asked for and not matched. -/
  missing : TextSet := .empty
  deriving DecidableEq

/-- A named group of identifiers that are tripped together. -/
structure IdentifierGroup where
  id : String
  identifiers : List String
  deriving DecidableEq

namespace IdentifierGroup

def row : Row IdentifierGroup :=
  .mk <$> .required "id" text <*> .required "identifiers" (list text)

def decode (o : Origin) : Decoder IdentifierGroup := row.decode o

def encode (g : IdentifierGroup) : Value :=
  .obj [("id", .str g.id), ("identifiers", .arr (g.identifiers.map .str))]

end IdentifierGroup

namespace Contingency

def isEmpty (c : Contingency) : Bool := c.elements.isEmpty

def row : Row Contingency :=
  (fun id elements missing => { id := id, elements := elements, missing := missing }) <$>
    .optional "id" text <*> .required "elements" (list Outage.decode) <*>
    .defaulted "notFoundElements" (fun v => TextSet.ofList <$> list text v) .empty

def decode (o : Origin) : Decoder Contingency := row.decode o

/-- The contingency as a document value; what is empty is left out, its elements apart. -/
def encode (c : Contingency) : Value :=
  .obj ((c.id.toList.map fun id => ("id", .str id)) ++
    [("elements", .arr (c.elements.map Outage.encode))] ++
    (if c.missing.isEmpty then [] else [("notFoundElements", .arr (c.missing.members.map .str))]))

/-- The contingency of matched elements, in their order. A requested identifier that no matched
element has is missing. The first element that cannot be tripped is the error. Mirrors
`ContingencyAssembler::assemble`. -/
def assemble (id : Option String) (matched : List Attributes) (requested : List String) :
    Except Error Contingency := do
  let elements ← matched.mapM Outage.ofAttributes
  let missing := requested.filter fun id => !matched.any (·.id == id)
  return { id := id, elements := elements, missing := .ofList missing }

/-- Mirrors `ContingencyAssembler::per_element`. -/
def perElement (matched : List Attributes) : Except Error (List Contingency) :=
  matched.mapM fun a => assemble (some a.id) [a] []

/-- `resolve` finds the element of an identifier. Mirrors `ContingencyAssembler::per_group`. -/
def perGroup (groups : List IdentifierGroup) (resolve : String → Option Attributes) :
    Except Error (List Contingency) :=
  groups.mapM fun g => assemble (some g.id) (g.identifiers.filterMap resolve) g.identifiers

end Contingency

end GridOutage
