import GridOutage.Country
import GridOutage.Document.Decode
import GridOutage.Equipment
import GridOutage.Instant
import GridOutage.Uuid

/-!
# Grid elements in documents (ctg-core and ctg-filter)

How countries, kinds of elements, what is known of an element, UUIDs and instants are written as
document values and decoded from them.
-/
namespace GridOutage

open Document

namespace Country

/-- A code; one that is not two letters is refused with its text. -/
def ofCode (s : String) : Except Filter.Rejection Country :=
  match ofText? s with
  | some c => .ok c
  | none => .error (.country s)

def decode : Decoder Country := fun v => do
  (ofCode (← text v)).mapError .rejected

end Country

namespace CountrySet

/-- The set of a list of codes. The first that is not two letters is refused. -/
def ofCodes (codes : List String) : Except Filter.Rejection CountrySet :=
  ofList <$> codes.mapM Country.ofCode

def codes (s : CountrySet) : List String := s.members.map Country.code

def encode (s : CountrySet) : Value := .arr (s.codes.map .str)

end CountrySet

namespace EquipmentType

/-- The type a text names; any other text is refused. -/
def ofName (s : String) : Except Filter.Rejection EquipmentType :=
  match ofText? s with
  | some t => .ok t
  | none => .error (.equipmentType s)

def names : List (String × EquipmentType) := named name all

def decode (o : Origin) : Decoder EquipmentType := variant o names

end EquipmentType

namespace ElementKind

def names : List (String × ElementKind) := named name all

def decode (o : Origin) : Decoder ElementKind := variant o names

end ElementKind

namespace Attributes

def row (o : Origin) : Row Attributes :=
  (fun id kind key => { id := id, kind := kind, distributionKey := key }) <$>
    .required "id" text <*> .required "type" (ElementKind.decode o) <*>
    .optional "distributionKey" number

def decode (o : Origin) : Decoder Attributes := (row o).decode o

def encode (a : Attributes) : Value :=
  .obj ([("id", .str a.id), ("type", .str a.kind.name)] ++
    a.distributionKey.toList.map fun x => ("distributionKey", .real x))

end Attributes

namespace Uuid

def decode : Decoder Uuid := textAs ofText?

def encode (u : Uuid) : Value := .str u.toText

end Uuid

namespace Instant

def decode : Decoder Instant := textAs ofText?

def encode (t : Instant) : Value := .str t.toText

end Instant

end GridOutage
