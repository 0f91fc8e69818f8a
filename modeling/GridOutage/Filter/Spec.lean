import GridOutage.Document.Elements
import GridOutage.Filter.Voltage

/-!
# Filter descriptions (`spec` of ctg-filter)

A `FilterSpec` asks for one type of equipment and optionally for an identifier or name pattern,
voltages and countries. It is made of a `FilterRecord`, which is what documents hold: codes as
texts, bounds not yet checked, and the single-voltage form of older documents beside the other.
`ofRecord` checks the type, the single voltage, the two voltage filters and the two country lists,
in that order.
-/
namespace GridOutage.Filter

open Document (Decoder Row Origin Value text list number)

/-- An accepted description. Mirrors `EquipmentFilterSpec`. -/
structure FilterSpec where
  type : EquipmentType
  idPattern : Option String := none
  namePattern : Option String := none
  voltage1 : Option VoltageFilter := none
  voltage2 : Option VoltageFilter := none
  countries1 : CountrySet := .empty
  countries2 : CountrySet := .empty
  deriving DecidableEq, Inhabited

/-- A description as documents hold it. Mirrors `EquipmentFilterRecord`. -/
structure FilterRecord where
  type : String
  idPattern : Option String := none
  namePattern : Option String := none
  voltage1 : Option VoltageRecord := none
  voltage2 : Option VoltageRecord := none
  singleVoltage : Option Binary64 := none
  singleOperator : Option Operator := none
  countries1 : List String := []
  countries2 : List String := []
  deriving DecidableEq

/-- A blank pattern is no pattern. Mirrors `normalize_pattern`. -/
def givenPattern (p : Option String) : Option String := p.filter (!Text.blank ·)

namespace FilterRecord

def row (o : Origin) : Row FilterRecord :=
  (fun type idPattern namePattern voltage1 voltage2 singleVoltage singleOperator countries1 countries2 =>
    { type := type, idPattern := idPattern, namePattern := namePattern, voltage1 := voltage1,
      voltage2 := voltage2, singleVoltage := singleVoltage, singleOperator := singleOperator,
      countries1 := countries1, countries2 := countries2 }) <$>
    .required "equipmentType" text <*> .optional "idPattern" text <*>
    .optional "namePattern" text <*> .optional "voltageFilter1" (VoltageRecord.decode o) <*>
    .optional "voltageFilter2" (VoltageRecord.decode o) <*> .optional "nominalVoltage" number <*>
    .optional "nominalVoltageOperator" (Operator.decode o) <*>
    .defaulted "countries1" (list text) [] <*> .defaulted "countries2" (list text) []

/-- The filter of the single-voltage form. A voltage needs an operator unless it stands for no
filter; an operator alone says nothing. -/
def single (r : FilterRecord) : Except Rejection (Option VoltageFilter) :=
  match r.singleVoltage, r.singleOperator with
  | some v, some op => SingleVoltage.toFilter { voltage := v, operator := op }
  | some v, none => if v.same noVoltage then .ok none else .error .legacyOperatorMissing
  | none, _ => .ok none

end FilterRecord

namespace FilterSpec

/-- The voltage filters are valid. Mirrors `EquipmentFilterSpec::validate`. -/
def validate (s : FilterSpec) : Except Rejection Unit :=
  (s.voltage1.toList ++ s.voltage2.toList).forM VoltageFilter.validate

/-- The description that a record stands for. The first voltage filter, where given, takes
precedence over the single-voltage form. Mirrors `EquipmentFilterSpec::try_from`. -/
def ofRecord (r : FilterRecord) : Except Rejection FilterSpec := do
  let type ← EquipmentType.ofName r.type
  let single ← r.single
  let voltage1 ← match r.voltage1 with
    | some v => some <$> VoltageFilter.ofRecord v
    | none => .ok single
  let voltage2 ← r.voltage2.mapM VoltageFilter.ofRecord
  let countries1 ← CountrySet.ofCodes r.countries1
  let countries2 ← CountrySet.ofCodes r.countries2
  return { type := type, idPattern := givenPattern r.idPattern,
           namePattern := givenPattern r.namePattern, voltage1 := voltage1, voltage2 := voltage2,
           countries1 := countries1, countries2 := countries2 }

def decode (o : Origin) : Decoder FilterSpec := fun v => do
  (ofRecord (← (FilterRecord.row o).decode o v)).mapError .rejected

/-- The description as a document value. What it does not ask for is left out. -/
def encode (s : FilterSpec) : Value :=
  .obj ([("equipmentType", .str s.type.name)] ++
    (s.idPattern.toList.map fun p => ("idPattern", .str p)) ++
    (s.namePattern.toList.map fun p => ("namePattern", .str p)) ++
    (s.voltage1.toList.map fun f => ("voltageFilter1", f.encode)) ++
    (s.voltage2.toList.map fun f => ("voltageFilter2", f.encode)) ++
    (if s.countries1.isEmpty then [] else [("countries1", s.countries1.encode)]) ++
    (if s.countries2.isEmpty then [] else [("countries2", s.countries2.encode)]))

/-! ## Building a description -/

def withIdPattern (s : FilterSpec) (p : String) : FilterSpec :=
  { s with idPattern := givenPattern (some p) }

def withNamePattern (s : FilterSpec) (p : String) : FilterSpec :=
  { s with namePattern := givenPattern (some p) }

def withVoltage1 (s : FilterSpec) (f : VoltageFilter) : FilterSpec := { s with voltage1 := some f }

def withVoltage2 (s : FilterSpec) (f : VoltageFilter) : FilterSpec := { s with voltage2 := some f }

def withCountries1 (s : FilterSpec) (cs : CountrySet) : FilterSpec := { s with countries1 := cs }

def withCountries2 (s : FilterSpec) (cs : CountrySet) : FilterSpec := { s with countries2 := cs }

end FilterSpec

end GridOutage.Filter
