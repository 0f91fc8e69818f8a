import GridOutage.Country
import GridOutage.Network.Fault
import GridOutage.Text.Blank

/-!
# The network graph (ctg-core)

Substations, voltage levels and equipment are the nodes of one graph, in the order in which they
were added. A voltage level is located in a substation, equipment has a terminal at a voltage
level for each of its sides, and an HVDC line instead has two converter stations. Country and
nominal voltage are held only where they belong and reached from equipment along the edges.

`Step` is one attempt to add an element, and `run` makes a network of a list of attempts. An
attempt that fails leaves the network as it was.
-/
namespace GridOutage

structure Substation where
  id : String
  name : Option String := none
  country : Option Country := none
  deriving DecidableEq

structure VoltageLevel where
  id : String
  name : Option String := none
  /-- The nominal voltage in kilovolts. -/
  nominal : Binary64
  deriving DecidableEq

structure Equipment where
  id : String
  name : Option String := none
  kind : ElementKind
  deriving DecidableEq

namespace Equipment

def attributes (e : Equipment) : Attributes := { id := e.id, kind := e.kind }

end Equipment

inductive Node where
  | substation (s : Substation)
  | voltageLevel (v : VoltageLevel)
  | equipment (e : Equipment)
  deriving DecidableEq

namespace Node

def id : Node → String
  | .substation s => s.id
  | .voltageLevel v => v.id
  | .equipment e => e.id

def isSubstation : Node → Bool
  | .substation _ => true
  | _ => false

def isVoltageLevel : Node → Bool
  | .voltageLevel _ => true
  | _ => false

def isStation : Node → Bool
  | .equipment e => e.kind == .converterStation
  | _ => false

def substation? : Node → Option Substation
  | .substation s => some s
  | _ => none

def voltageLevel? : Node → Option VoltageLevel
  | .voltageLevel v => some v
  | _ => none

def equipment? : Node → Option Equipment
  | .equipment e => some e
  | _ => none

end Node

/-- What an edge of the graph says of its two ends. -/
inductive Link where
  /-- A voltage level belongs to a substation. -/
  | locatedIn
  /-- A side of an element is connected to a voltage level. -/
  | terminal (side : Side)
  /-- A side of an HVDC line is a converter station. -/
  | station (side : Side)
  deriving DecidableEq, Repr

/-- An edge between two nodes, given by their positions. -/
structure Edge where
  source : Nat
  target : Nat
  link : Link
  deriving DecidableEq, Repr

structure Network where
  nodes : List Node
  edges : List Edge
  /-- The position of each identifier. -/
  index : List (String × Nat)
  deriving DecidableEq

namespace Network

def empty : Network := ⟨[], [], []⟩

instance : Inhabited Network := ⟨empty⟩

/-! ## Looking up -/

/-- The position of an identifier. Mirrors `Network::node_index`. -/
def position? (net : Network) (id : String) : Option Nat := net.index.lookup id

def equipmentAt? (net : Network) (i : Nat) : Option Equipment :=
  net.nodes[i]?.bind Node.equipment?

/-- The equipment of an identifier; substations and voltage levels are none. -/
def equipment? (net : Network) (id : String) : Option Equipment :=
  (net.position? id).bind net.equipmentAt?

/-- The position of an element that must be of some kind. Mirrors `Network::expect_node`. -/
def expect (net : Network) (id : String) (accept : Node → Bool) : Except Fault Nat :=
  match net.position? id with
  | none => .error (.unknownElement id)
  | some i => if net.nodes[i]?.any accept then .ok i else .error (.wrongKind id)

/-! ## Adding -/

/-- A new node with its edges, under an identifier that is not blank and not in use. Mirrors
`Network::register`. -/
def register (net : Network) (node : Node) (edges : List (Link × Nat)) : Except Fault Network :=
  if Text.blank node.id then .error .blankIdentifier
  else if (net.position? node.id).isSome then .error (.duplicateIdentifier node.id)
  else
    let i := net.nodes.length
    .ok { nodes := net.nodes ++ [node]
          edges := net.edges ++ edges.map fun (link, target) => ⟨i, target, link⟩
          index := net.index ++ [(node.id, i)] }

/-- Mirrors `Network::add_substation`. -/
def addSubstation (net : Network) (s : Substation) : Except Fault Network :=
  net.register (.substation s) []

/-- Mirrors `Network::add_voltage_level`. -/
def addVoltageLevel (net : Network) (substation : String) (v : VoltageLevel) : Except Fault Network := do
  let s ← net.expect substation Node.isSubstation
  if v.nominal.isFinite then net.register (.voltageLevel v) [(.locatedIn, s)]
  else .error (.voltageNotFinite v.id)

/-- An element with a terminal at each of some voltage levels, in the order of its sides. Mirrors
`Network::add_equipment`. -/
def addEquipment (net : Network) (e : Equipment) (levels : List String) : Except Fault Network :=
  if e.kind = .equipment .hvdcLine then .error (.needsStations e.id)
  else if levels.length ≠ e.kind.terminalCount then
    .error (.terminalCount e.id e.kind.terminalCount levels.length)
  else do
    let targets ← levels.mapM fun id => net.expect id Node.isVoltageLevel
    net.register (.equipment e) ((Side.all.map Link.terminal).zip targets)

/-- An HVDC line between two converter stations. Mirrors `Network::add_hvdc_line`. -/
def addHvdcLine (net : Network) (e : Equipment) (station1 station2 : String) : Except Fault Network :=
  if e.kind ≠ .equipment .hvdcLine then .error (.notHvdcLine e.id e.kind)
  else do
    let one ← net.expect station1 Node.isStation
    let two ← net.expect station2 Node.isStation
    net.register (.equipment e) [(.station .one, one), (.station .two, two)]

/-- One attempt to add an element. -/
inductive Step where
  | substation (s : Substation)
  | voltageLevel (substation : String) (v : VoltageLevel)
  | equipment (e : Equipment) (levels : List String)
  | hvdcLine (e : Equipment) (station1 station2 : String)
  deriving DecidableEq

def add (net : Network) : Step → Except Fault Network
  | .substation s => net.addSubstation s
  | .voltageLevel substation v => net.addVoltageLevel substation v
  | .equipment e levels => net.addEquipment e levels
  | .hvdcLine e station1 station2 => net.addHvdcLine e station1 station2

/-- The network after an attempt: the same one if the attempt fails. -/
def attempt (net : Network) (step : Step) : Network :=
  match net.add step with
  | .ok after => after
  | .error _ => net

/-- The network of a list of attempts. -/
def run (steps : List Step) : Network := steps.foldl attempt empty

/-! ## Following edges -/

/-- A side of an element and the position of the voltage level it is connected to. -/
structure Terminal where
  side : Side
  level : Nat
  deriving DecidableEq, Repr

/-- The targets of a node's edges of one label, in the order in which they were added. -/
def targets (net : Network) (i : Nat) (link : Link) : List Nat :=
  (net.edges.filter fun e => e.source == i && e.link == link).map Edge.target

/-- The terminals of an element, in the order of its sides. -/
def terminals (net : Network) (i : Nat) : List Terminal :=
  Side.all.flatMap fun side => (net.targets i (.terminal side)).map (⟨side, ·⟩)

def terminal? (net : Network) (i : Nat) (side : Side) : Option Terminal :=
  (net.terminals i).find? (·.side == side)

/-- Mirrors `Network::converter_station`. -/
def station? (net : Network) (i : Nat) (side : Side) : Option Nat :=
  (net.targets i (.station side)).head?

def voltageLevel? (net : Network) (t : Terminal) : Option VoltageLevel :=
  net.nodes[t.level]?.bind Node.voltageLevel?

/-- The substation of the voltage level at a position. Mirrors `Network::substation_of`. -/
def substation? (net : Network) (level : Nat) : Option Substation :=
  (net.targets level .locatedIn).findSome? fun i => net.nodes[i]?.bind Node.substation?

/-- Mirrors `Network::nominal_voltage_of`. -/
def nominalVoltage? (net : Network) (t : Terminal) : Option Binary64 :=
  (net.voltageLevel? t).map VoltageLevel.nominal

/-- Mirrors `Network::country_of`. -/
def country? (net : Network) (t : Terminal) : Option Country :=
  (net.substation? t.level).bind Substation.country

/-! ## Listing -/

/-- All equipment with its positions, in the order of the nodes. -/
def equipments (net : Network) : List (Nat × Equipment) :=
  net.nodes.zipIdx.filterMap fun (node, i) => node.equipment?.map (i, ·)

/-- Mirrors `Network::equipments_of_kind`. -/
def ofKind (net : Network) (kind : ElementKind) : List (Nat × Equipment) :=
  net.equipments.filter fun (_, e) => e.kind == kind

/-- An identifier of named equipment. -/
def hasName (net : Network) (id : String) : Bool :=
  (net.equipment? id).any (·.name.isSome)

/-- How many nodes of each class a network has. Mirrors `NetworkStats`. -/
structure Stats where
  substations : Nat
  voltageLevels : Nat
  equipments : Nat
  deriving DecidableEq, Repr

def stats (net : Network) : Stats :=
  ⟨net.nodes.countP Node.isSubstation, net.nodes.countP Node.isVoltageLevel,
    net.nodes.countP (·.equipment?.isSome)⟩

def Stats.text (s : Stats) : String :=
  toString s.substations ++ " substations, " ++ toString s.voltageLevels ++ " voltage levels, " ++
    toString s.equipments ++ " equipments"

end Network

end GridOutage
