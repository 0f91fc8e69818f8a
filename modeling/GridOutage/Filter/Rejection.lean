import GridOutage.Binary64.Shortest

/-!
# Why a filter description is refused (messages of ctg-filter)

The faults of a filter's own rules, as opposed to those of the document it stands in.
-/
namespace GridOutage.Filter

inductive Rejection where
  /-- A country code that is not two letters. -/
  | country (code : String)
  /-- A text that names no equipment type. -/
  | equipmentType (text : String)
  /-- A range without its upper bound. -/
  | upperBoundMissing
  | boundNotFinite (bound : Binary64)
  | rangeNotFinite (low high : Binary64)
  | rangeInverted (low high : Binary64)
  /-- The single-voltage form with the operator of ranges. -/
  | legacyRange
  /-- The single-voltage form without an operator. -/
  | legacyOperatorMissing
  deriving DecidableEq

namespace Rejection

open Binary64 (messageText)

def text : Rejection → String
  | .country code => "invalid country code '" ++ code ++ "'; expected two ASCII letters"
  | .equipmentType text => "unknown equipment type '" ++ text ++ "'"
  | .upperBoundMissing => "RANGE filter requires a second bound"
  | .boundNotFinite b => "numeric bound " ++ messageText b ++ " is not finite"
  | .rangeNotFinite low high =>
    "range [" ++ messageText low ++ ", " ++ messageText high ++ "] is not finite"
  | .rangeInverted low high =>
    "range lower bound " ++ messageText low ++ " exceeds upper bound " ++ messageText high
  | .legacyRange => "legacy voltage filters cannot use RANGE"
  | .legacyOperatorMissing => "nominalVoltage requires nominalVoltageOperator"

end Rejection

end GridOutage.Filter
