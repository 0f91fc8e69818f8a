import GridOutage.Binary64.Nearest
import GridOutage.Document.Decode

/-!
# Voltage filters (`spec` of ctg-filter, `units` of ctg-core)

A voltage filter compares a nominal voltage with a bound or asks that it lie in a closed range.
Its record has an operator and one or two bounds; `ofRecord` accepts a record when its bounds are
finite and a range has its lower bound first. The single-voltage form of older records has one
bound and uses `-1` for no filter.
-/
namespace GridOutage.Filter

open Document (Decoder Row Origin Value)

/-! ## Comparisons -/

inductive Comparison where
  | equal | greaterThan | greaterOrEqual | lessThan | lessOrEqual
  deriving DecidableEq, Repr, Inhabited

/-- How far apart two voltages are that still count as equal, in kilovolts. Mirrors
`VOLTAGE_EPSILON`. -/
def tolerance : Binary64 := .ofDecimal false 1 (-9)

namespace Comparison

def all : List Comparison := [.equal, .greaterThan, .greaterOrEqual, .lessThan, .lessOrEqual]

/-- The operator of scripts. -/
def symbol : Comparison → String
  | .equal => "=="
  | .greaterThan => ">"
  | .greaterOrEqual => ">="
  | .lessThan => "<"
  | .lessOrEqual => "<="

/-- Equality allows for the tolerance, the orders do not. Mirrors `Comparison::holds` with
`Kilovolts::approx_eq`. -/
def holds : Comparison → Binary64 → Binary64 → Bool
  | .equal, v, b => (v.sub b).abs.le tolerance
  | .greaterThan, v, b => b.lt v
  | .greaterOrEqual, v, b => b.le v
  | .lessThan, v, b => v.lt b
  | .lessOrEqual, v, b => v.le b

end Comparison

/-- The operator of a record: a comparison, or a range of two bounds. Mirrors `NumericOperator`. -/
inductive Operator where
  | compare (c : Comparison)
  | range
  deriving DecidableEq, Repr, Inhabited

namespace Operator

def all : List Operator := Comparison.all.map .compare ++ [.range]

def name : Operator → String
  | .compare .equal => "EQUAL"
  | .compare .greaterThan => "GREATER_THAN"
  | .compare .greaterOrEqual => "GREATER_OR_EQUAL"
  | .compare .lessThan => "LESS_THAN"
  | .compare .lessOrEqual => "LESS_OR_EQUAL"
  | .range => "RANGE"

/-- The operator of scripts. A range has none: it is written as two comparisons. -/
def symbol : Operator → String
  | .compare c => c.symbol
  | .range => ""

def names : List (String × Operator) := Document.named name all

def decode (o : Origin) : Decoder Operator := Document.variant o names

end Operator

/-! ## Filters -/

/-- A constraint on one nominal voltage. Mirrors `NumericFilter`. -/
inductive VoltageFilter where
  | compare (comparison : Comparison) (bound : Binary64)
  /-- Both ends belong to the range. -/
  | range (low high : Binary64)
  deriving DecidableEq

/-- The record of a voltage filter. Mirrors `NumericFilterRecord`. -/
structure VoltageRecord where
  operator : Operator
  bound1 : Binary64
  bound2 : Option Binary64 := none
  deriving DecidableEq

namespace VoltageRecord

def row (o : Origin) : Row VoltageRecord :=
  (fun operator bound1 bound2 => { operator := operator, bound1 := bound1, bound2 := bound2 }) <$>
    .required "operator" (Operator.decode o) <*> .required "bound1" Document.number <*>
    .optional "bound2" Document.number

def decode (o : Origin) : Decoder VoltageRecord := (row o).decode o

def encode (r : VoltageRecord) : Value :=
  .obj ([("operator", .str r.operator.name), ("bound1", .real r.bound1)] ++
    r.bound2.toList.map fun b => ("bound2", .real b))

end VoltageRecord

namespace VoltageFilter

def operator : VoltageFilter → Operator
  | .compare c _ => .compare c
  | .range _ _ => .range

/-- Equal as constraints are written: bounds are compared as numbers. -/
def same : VoltageFilter → VoltageFilter → Bool
  | .compare c a, .compare d b => c == d && a.same b
  | .range a b, .range c d => a.same c && b.same d
  | _, _ => false

/-- Bounds are finite, and a range does not end before it starts. Mirrors
`NumericFilter::validate`. -/
def validate : VoltageFilter → Except Rejection Unit
  | .compare _ b => if b.isFinite then .ok () else .error (.boundNotFinite b)
  | .range low high =>
    if ¬ (low.isFinite ∧ high.isFinite) then .error (.rangeNotFinite low high)
    else if high.lt low then .error (.rangeInverted low high)
    else .ok ()

/-- The filter that a record describes. A second bound counts only for a range. Mirrors
`NumericFilter::new`. -/
def ofRecord (r : VoltageRecord) : Except Rejection VoltageFilter := do
  let f ← match r.operator, r.bound2 with
    | .compare c, _ => .ok (.compare c r.bound1)
    | .range, some high => .ok (.range r.bound1 high)
    | .range, none => .error .upperBoundMissing
  f.validate
  return f

def record : VoltageFilter → VoltageRecord
  | .compare c b => { operator := .compare c, bound1 := b }
  | .range low high => { operator := .range, bound1 := low, bound2 := some high }

def encode (f : VoltageFilter) : Value := f.record.encode

/-- A record, decoded and accepted. -/
def decode (o : Origin) : Decoder VoltageFilter := fun v => do
  (ofRecord (← VoltageRecord.decode o v)).mapError .rejected

end VoltageFilter

/-! ## The single-voltage form -/

/-- The voltage that stands for no filter in the single-voltage form. Mirrors
`LEGACY_UNSET_BOUND`. -/
def noVoltage : Binary64 := .ofInt (-1)

/-- One voltage with its operator. Mirrors `LegacyVoltageFilter`. -/
structure SingleVoltage where
  voltage : Binary64
  operator : Operator
  deriving DecidableEq

namespace SingleVoltage

def row (o : Origin) : Row SingleVoltage :=
  (fun voltage operator => { voltage := voltage, operator := operator }) <$>
    .required "nominalVoltage" Document.number <*>
    .required "nominalVoltageOperator" (Operator.decode o)

def decode (o : Origin) : Decoder SingleVoltage := (row o).decode o

/-- The filter it stands for, if any. The operator cannot be that of ranges. Mirrors
`LegacyVoltageFilter::into_filter`. -/
def toFilter (s : SingleVoltage) : Except Rejection (Option VoltageFilter) :=
  if s.voltage.same noVoltage then .ok none
  else match s.operator with
    | .compare c => some <$> VoltageFilter.ofRecord { operator := .compare c, bound1 := s.voltage }
    | .range => .error .legacyRange

end SingleVoltage

end GridOutage.Filter
