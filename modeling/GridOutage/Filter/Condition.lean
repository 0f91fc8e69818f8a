import GridOutage.Filter.Glob
import GridOutage.Filter.Route
import GridOutage.Filter.Voltage

/-!
# Conditions (`condition` of ctg-filter)

A condition is a boolean expression over one element of a network: voltage and country tests at
a measure point, tests of the identifier and the name, and conjunctions and disjunctions of
conditions. A `helper` stands for its body under the name of a script function. There is no
condition that is always true: a filter leaves out what it does not ask for.
-/
namespace GridOutage.Filter

inductive Condition where
  | voltage (point : MeasurePoint) (comparison : Comparison) (bound : Binary64)
  | id (pattern : Glob)
  | name (pattern : Glob)
  | located (point : MeasurePoint) (countries : CountrySet)
  | all (parts : List Condition)
  | any (parts : List Condition)
  | helper (function : String) (countries1 countries2 : CountrySet) (body : Condition)

instance : Inhabited Condition := ⟨.all []⟩

namespace Condition

/-! ## Testing an element -/

/-- Some terminal at the point has a nominal voltage that compares so with the bound. -/
def voltageHolds (net : Network) (i : Nat) (p : MeasurePoint) (c : Comparison) (b : Binary64) : Bool :=
  (p.terminals net i).any fun t => (net.nominalVoltage? t).any (c.holds · b)

/-- Some terminal at the point is in one of the countries. -/
def locatedHolds (net : Network) (i : Nat) (p : MeasurePoint) (s : CountrySet) : Bool :=
  (p.terminals net i).any fun t => (net.country? t).any s.contains

variable [PatternEngine]

/-- A name that the pattern accepts; an element without a name has none. Mirrors `match_name`. -/
def nameHolds (e : Equipment) (g : Glob) : Bool := e.name.any g.accepts

mutual

/-- The condition holds of an element, given by its position and what is known of it. Mirrors
`Condition::matches`. -/
def holds (net : Network) (i : Nat) (e : Equipment) : Condition → Bool
  | .voltage p c b => voltageHolds net i p c b
  | .id g => g.accepts e.id
  | .name g => nameHolds e g
  | .located p s => locatedHolds net i p s
  | .all parts => allHold net i e parts
  | .any parts => anyHolds net i e parts
  | .helper _ _ _ body => holds net i e body

def allHold (net : Network) (i : Nat) (e : Equipment) : List Condition → Bool
  | [] => true
  | c :: cs => holds net i e c && allHold net i e cs

def anyHolds (net : Network) (i : Nat) (e : Equipment) : List Condition → Bool
  | [] => false
  | c :: cs => holds net i e c || anyHolds net i e cs

end

@[simp]
theorem allHold_eq (net : Network) (i : Nat) (e : Equipment) (cs : List Condition) :
    allHold net i e cs = cs.all (holds net i e) := by
  induction cs with
  | nil => rfl
  | cons c cs ih => simp [allHold, ih]

@[simp]
theorem anyHolds_eq (net : Network) (i : Nat) (e : Equipment) (cs : List Condition) :
    anyHolds net i e cs = cs.any (holds net i e) := by
  induction cs with
  | nil => rfl
  | cons c cs ih => simp [anyHolds, ih]

/-- The equipment of a network that the condition holds of, in the order of the nodes. -/
def matching (net : Network) (c : Condition) : List Equipment :=
  (net.equipments.filter fun (i, e) => c.holds net i e).map Prod.snd

end Condition

end GridOutage.Filter
