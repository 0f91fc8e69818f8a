import GridOutage.Filter.Script
import GridOutage.Filter.Spec

/-!
# Compiled filters (`compiler`, `numeric` and `topology` of ctg-filter)

A filter description becomes at most three conditions, on voltages, identity and countries; what
a description does not ask for gives no condition. Elements with two ends have no side that is
first by nature: one constraint may hold at either end, and of two different ones each must hold
at an end of its own.
-/
namespace GridOutage.Filter

/-- Constraints at the two ends of an element. Two constraints that are the same are one. Mirrors
`side_assignments`. -/
def eitherEnd {α : Type} (same : α → α → Bool) (place : α → MeasurePoint → Condition)
    (p q : MeasurePoint) : Option α → Option α → Option Condition
  | none, none => none
  | some a, none | none, some a => some (.any [place a p, place a q])
  | some a, some b =>
    if same a b then some (.any [place a p, place a q])
    else some (.any [.all [place a p, place b q], .all [place b p, place a q]])

/-! ## Voltages -/

/-- A voltage filter at a point. Mirrors `NumericRangeCompiler::condition_at`. -/
def VoltageFilter.conditionAt (f : VoltageFilter) (p : MeasurePoint) : Condition :=
  match f with
  | .compare c b => .voltage p c b
  | .range low high => .all [.voltage p .greaterOrEqual low, .voltage p .lessOrEqual high]

/-- The condition of up to two voltage filters. Of a shape with one point only the first counts.
Mirrors `NumericRangeCompiler::compile`. -/
def voltageCondition (shape : Shape) (f g : Option VoltageFilter) : Option Condition :=
  match shape.points with
  | .single p => f.map (·.conditionAt p)
  | .dual p q => eitherEnd VoltageFilter.same VoltageFilter.conditionAt p q f g

/-! ## Identity -/

/-- The identifier or the name is as a pattern says; a pattern that is left out accepts everything.
Every element has an identifier, so where its pattern accepts everything there is no condition.
Mirrors `TopologyPredicateCompiler::compile_identity`. -/
def identityCondition (idPattern namePattern : Option String) : Option Condition :=
  let id := (idPattern.map Glob.mk).getD .any
  let name := (namePattern.map Glob.mk).getD .any
  if id.acceptsEverything then none else some (.any [.id id, .name name])

/-! ## Countries -/

/-- A set that constrains: an empty one does not. -/
def givenCountries (s : CountrySet) : Option CountrySet := if s.isEmpty then none else some s

def locatedAt (s : CountrySet) (p : MeasurePoint) : Condition := .located p s

/-- The condition of up to two country sets, for dual shapes under the function of the type. Mirrors
`TopologyPredicateCompiler::compile_country`. -/
def countryCondition (type : EquipmentType) (s t : CountrySet) : Option Condition :=
  match type.shape.points with
  | .single p => (givenCountries s).map (locatedAt · p)
  | .dual p q =>
    (eitherEnd CountrySet.same locatedAt p q (givenCountries s) (givenCountries t)).map
      (.helper type.countryFunction s t)

/-! ## Filters -/

/-- A test of the elements of one type. A condition that is missing holds always. -/
structure CompiledFilter where
  type : EquipmentType
  voltage : Option Condition
  identity : Option Condition
  country : Option Condition

namespace CompiledFilter

def conditions (f : CompiledFilter) : List Condition :=
  f.voltage.toList ++ f.identity.toList ++ f.country.toList

/-- Every element of the type passes. -/
def isUniversal (f : CompiledFilter) : Bool := f.conditions.isEmpty

section

variable [PatternEngine]

/-- The node at a position is equipment of the type, and all conditions hold of it. Mirrors
`CompiledFilter::matches`. -/
def accepts (f : CompiledFilter) (net : Network) (i : Nat) : Bool :=
  match net.equipmentAt? i with
  | some e => e.kind == .equipment f.type && f.conditions.all (·.holds net i e)
  | none => false

/-- The accepted equipment, in the order of the network. Mirrors
`CompiledFilter::matching_elements`. -/
def matching (f : CompiledFilter) (net : Network) : List Equipment :=
  ((net.ofKind (.equipment f.type)).filter fun (i, _) => f.accepts net i).map Prod.snd

def matchingAttributes (f : CompiledFilter) (net : Network) : List Attributes :=
  (f.matching net).map Equipment.attributes

end

/-- The script of the filter. -/
def toScript (f : CompiledFilter) : String := script f.type.collection f.conditions

end CompiledFilter

/-- The filter of a description with valid voltage filters. Mirrors `FilterCompiler::compile`. -/
def FilterSpec.compile (s : FilterSpec) : Except Rejection CompiledFilter := do
  s.validate
  return { type := s.type
           voltage := voltageCondition s.type.shape s.voltage1 s.voltage2
           identity := identityCondition s.idPattern s.namePattern
           country := countryCondition s.type s.countries1 s.countries2 }

/-- The script of a description. Mirrors `FilterCompiler::to_script`. -/
def FilterSpec.toScript (s : FilterSpec) : Except Rejection String :=
  CompiledFilter.toScript <$> s.compile

end GridOutage.Filter
