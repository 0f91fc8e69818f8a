import GridOutage.Document.Elements
import GridOutage.Network.Graph

/-!
# Network documents (`loader` of ctg-core)

A document lists substations, each with its voltage levels, and equipment. `plan` is the order in
which its elements join a network: every substation before its own voltage levels, then the
equipment that has terminals, and HVDC lines last, so that their converter stations may stand
anywhere in the document.
-/
namespace GridOutage

open Document

structure VoltageLevelDocument where
  id : String
  name : Option String := none
  nominal : Binary64
  deriving DecidableEq

structure SubstationDocument where
  id : String
  name : Option String := none
  country : Option Country := none
  levels : List VoltageLevelDocument := []
  deriving DecidableEq

structure EquipmentDocument where
  id : String
  name : Option String := none
  kind : ElementKind
  /-- The voltage levels that the element has terminals at, in the order of its sides. -/
  terminals : List String := []
  /-- The converter stations of an HVDC line. -/
  stations : List String := []
  deriving DecidableEq

structure NetworkDocument where
  id : Option String := none
  substations : List SubstationDocument := []
  equipment : List EquipmentDocument := []
  deriving DecidableEq

/-! ## Decoding -/

namespace VoltageLevelDocument

def row : Row VoltageLevelDocument :=
  (fun id name nominal => { id := id, name := name, nominal := nominal }) <$>
    .required "id" text <*> .optional "name" text <*> .required "nominal_v" number

end VoltageLevelDocument

namespace SubstationDocument

def row (o : Origin) : Row SubstationDocument :=
  (fun id name country levels => { id := id, name := name, country := country, levels := levels }) <$>
    .required "id" text <*> .optional "name" text <*> .optional "country" Country.decode <*>
    .defaulted "voltage_levels" (list (VoltageLevelDocument.row.decode o)) []

end SubstationDocument

namespace EquipmentDocument

def row (o : Origin) : Row EquipmentDocument :=
  (fun id name kind terminals stations =>
    { id := id, name := name, kind := kind, terminals := terminals, stations := stations }) <$>
    .required "id" text <*> .optional "name" text <*> .required "kind" (ElementKind.decode o) <*>
    .defaulted "terminals" (list text) [] <*> .defaulted "converter_stations" (list text) []

def isHvdcLine (e : EquipmentDocument) : Bool := e.kind == .equipment .hvdcLine

def element (e : EquipmentDocument) : Equipment := { id := e.id, name := e.name, kind := e.kind }

end EquipmentDocument

namespace NetworkDocument

def row (o : Origin) : Row NetworkDocument :=
  (fun id substations equipment => { id := id, substations := substations, equipment := equipment }) <$>
    .optional "id" text <*>
    .defaulted "substations" (list ((SubstationDocument.row o).decode o)) [] <*>
    .defaulted "equipment" (list ((EquipmentDocument.row o).decode o)) []

def decode (o : Origin) : Decoder NetworkDocument := (row o).decode o

/-! ## Building the network -/

/-- A substation, then its voltage levels. -/
def substationSteps (s : SubstationDocument) : List Network.Step :=
  .substation { id := s.id, name := s.name, country := s.country } ::
    s.levels.map fun v => .voltageLevel s.id { id := v.id, name := v.name, nominal := v.nominal }

/-- An element that is no HVDC line. -/
def equipmentStep (e : EquipmentDocument) : Network.Step := .equipment e.element e.terminals

/-- An HVDC line, if it names two converter stations. -/
def hvdcStep (e : EquipmentDocument) : Except Network.Fault Network.Step :=
  match e.stations with
  | [one, two] => .ok (.hvdcLine e.element one two)
  | _ => .error (.stationCount e.id)

/-- The steps that build the network, each of which may be found impossible when its turn comes. -/
def plan (d : NetworkDocument) : List (Except Network.Fault Network.Step) :=
  (d.substations.flatMap substationSteps).map .ok ++
    ((d.equipment.filter fun e => !e.isHvdcLine).map fun e => .ok (equipmentStep e)) ++
    (d.equipment.filter EquipmentDocument.isHvdcLine).map hvdcStep

/-- The network of a document, or the fault of the first step that fails. Mirrors
`NetworkDocument::into_network`. -/
def toNetwork (d : NetworkDocument) : Except Network.Fault Network :=
  d.plan.foldlM (fun net step => do net.add (← step)) Network.empty

end NetworkDocument

end GridOutage
