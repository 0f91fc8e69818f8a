import GridOutage.Equipment
import GridOutage.Network.Graph

/-!
# Where filters look (`router` of ctg-filter)

Each equipment type has a shape, which fixes the points of an element where a filter measures
voltages and countries: the single terminal of an injection, the first two terminals of a branch
(a third one is never looked at), or the two converter stations of an HVDC line.
-/
namespace GridOutage.Filter

/-- A place on an element where a quantity is measured. -/
inductive MeasurePoint where
  /-- Every terminal of the element. -/
  | terminal
  | terminal1
  | terminal2
  | station1
  | station2
  deriving DecidableEq, Repr, Inhabited

namespace MeasurePoint

def all : List MeasurePoint := [.terminal, .terminal1, .terminal2, .station1, .station2]

/-- The terminal of the point in scripts. Mirrors `MeasurePoint::script_path`. -/
def path : MeasurePoint → String
  | .terminal => "equipment.terminal"
  | .terminal1 => "equipment.terminal1"
  | .terminal2 => "equipment.terminal2"
  | .station1 => "equipment.converterStation1.terminal"
  | .station2 => "equipment.converterStation2.terminal"

/-- What a location test is applied to in scripts. -/
def located : MeasurePoint → String
  | .terminal => "equipment"
  | p => p.path

/-- The terminals of an element at the point. -/
def terminals (p : MeasurePoint) (net : Network) (i : Nat) : List Network.Terminal :=
  match p with
  | .terminal => net.terminals i
  | .terminal1 => (net.terminal? i .one).toList
  | .terminal2 => (net.terminal? i .two).toList
  | .station1 => ((net.station? i .one).map net.terminals).getD []
  | .station2 => ((net.station? i .two).map net.terminals).getD []

end MeasurePoint

/-- The points of a shape: one, or two that are equal in standing. -/
inductive MeasurePoints where
  | single (p : MeasurePoint)
  | dual (p q : MeasurePoint)
  deriving DecidableEq, Repr

/-- Mirrors `TopologyShape`. -/
inductive Shape where
  /-- One terminal. -/
  | injection
  /-- Two or three terminals. -/
  | branch
  /-- Two converter stations with a terminal each. -/
  | hvdcLine
  deriving DecidableEq, Repr

namespace Shape

/-- Mirrors `TopologyShape::measure_points`. -/
def points : Shape → MeasurePoints
  | .injection => .single .terminal
  | .branch => .dual .terminal1 .terminal2
  | .hvdcLine => .dual .station1 .station2

end Shape

end GridOutage.Filter

namespace GridOutage.EquipmentType

/-- Mirrors `EquipmentClassRouter::route`. -/
def shape : EquipmentType → Filter.Shape
  | .hvdcLine => .hvdcLine
  | .line | .twoWindingsTransformer | .threeWindingsTransformer => .branch
  | _ => .injection

/-- The collection of all equipment of the type in scripts. -/
def collection : EquipmentType → String
  | .generator => "generators"
  | .load => "loads"
  | .battery => "batteries"
  | .shuntCompensator => "shuntCompensators"
  | .staticVarCompensator => "staticVarCompensators"
  | .busbarSection => "busbarSections"
  | .danglingLine => "danglingLines"
  | .hvdcLine => "hvdcLines"
  | .line => "lines"
  | .twoWindingsTransformer => "twoWindingsTransformers"
  | .threeWindingsTransformer => "threeWindingsTransformers"

/-- The script function that tests the countries of equipment of the type. Mirrors
`CountryHelper::function_name`. -/
def countryFunction : EquipmentType → String
  | .hvdcLine => "hvdcLineMatch"
  | .line => "lineMatch"
  | .twoWindingsTransformer | .threeWindingsTransformer => "transfoMatch"
  | _ => "isLocatedIn"

end GridOutage.EquipmentType
