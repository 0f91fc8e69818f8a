import GridOutage.Binary64.Basic
import GridOutage.Text.Blank

/-!
# Kinds of grid elements (`equipment` of ctg-core)

An `EquipmentType` is what a filter may select and a contingency may trip. An `ElementKind` is
any kind of element of a grid: an equipment type, or one of the two kinds that only carry
topology, converter stations and buses.
-/
namespace GridOutage

/-- The types of equipment a contingency can trip. -/
inductive EquipmentType where
  | generator | load | battery | shuntCompensator | staticVarCompensator | busbarSection
  | danglingLine | hvdcLine | line | twoWindingsTransformer | threeWindingsTransformer
  deriving DecidableEq, Repr, Inhabited

namespace EquipmentType

def all : List EquipmentType :=
  [.generator, .load, .battery, .shuntCompensator, .staticVarCompensator, .busbarSection,
    .danglingLine, .hvdcLine, .line, .twoWindingsTransformer, .threeWindingsTransformer]

/-- The name in documents. -/
def name : EquipmentType → String
  | .generator => "GENERATOR"
  | .load => "LOAD"
  | .battery => "BATTERY"
  | .shuntCompensator => "SHUNT_COMPENSATOR"
  | .staticVarCompensator => "STATIC_VAR_COMPENSATOR"
  | .busbarSection => "BUSBAR_SECTION"
  | .danglingLine => "DANGLING_LINE"
  | .hvdcLine => "HVDC_LINE"
  | .line => "LINE"
  | .twoWindingsTransformer => "TWO_WINDINGS_TRANSFORMER"
  | .threeWindingsTransformer => "THREE_WINDINGS_TRANSFORMER"

/-- The name in messages about the kind itself. -/
def title : EquipmentType → String
  | .generator => "Generator"
  | .load => "Load"
  | .battery => "Battery"
  | .shuntCompensator => "ShuntCompensator"
  | .staticVarCompensator => "StaticVarCompensator"
  | .busbarSection => "BusbarSection"
  | .danglingLine => "DanglingLine"
  | .hvdcLine => "HvdcLine"
  | .line => "Line"
  | .twoWindingsTransformer => "TwoWindingsTransformer"
  | .threeWindingsTransformer => "ThreeWindingsTransformer"

/-- The type a text names, blanks at its ends and the case of ASCII letters apart. -/
def ofText? (s : String) : Option EquipmentType :=
  all.find? fun t => Text.sameIgnoringCase t.name (Text.trim s)

theorem mem_all (t : EquipmentType) : t ∈ all := by cases t <;> decide

theorem name_injective {t u : EquipmentType} (h : t.name = u.name) : t = u := by
  revert h; cases t <;> cases u <;> simp [name]

end EquipmentType

/-- Every kind of element a grid or a filter service can report. Mirrors `EquipmentKind`. -/
inductive ElementKind where
  | equipment (type : EquipmentType)
  | converterStation
  | bus
  deriving DecidableEq, Repr

namespace ElementKind

instance : Inhabited ElementKind := ⟨.bus⟩

def all : List ElementKind := EquipmentType.all.map .equipment ++ [.converterStation, .bus]

def name : ElementKind → String
  | .equipment t => t.name
  | .converterStation => "HVDC_CONVERTER_STATION"
  | .bus => "BUS"

def title : ElementKind → String
  | .equipment t => t.title
  | .converterStation => "HvdcConverterStation"
  | .bus => "Bus"

/-- The type a filter selects the kind by, if it is one that can be tripped. -/
def type? : ElementKind → Option EquipmentType
  | .equipment t => some t
  | .converterStation | .bus => none

/-- How many terminals an element of the kind has. An HVDC line has none of its own: it reaches
the grid through its converter stations. -/
def terminalCount : ElementKind → Nat
  | .equipment .hvdcLine => 0
  | .equipment .line | .equipment .twoWindingsTransformer => 2
  | .equipment .threeWindingsTransformer => 3
  | _ => 1

end ElementKind

/-- A side of an element with several ends. -/
inductive Side where
  | one | two | three
  deriving DecidableEq, Repr, Inhabited

namespace Side

def all : List Side := [.one, .two, .three]

def name : Side → String
  | .one => "ONE"
  | .two => "TWO"
  | .three => "THREE"

end Side

/-- What is known of one element that a filter matched. Mirrors `IdentifiableAttributes`. -/
structure Attributes where
  id : String
  kind : ElementKind
  distributionKey : Option Binary64 := none
  deriving DecidableEq

end GridOutage
