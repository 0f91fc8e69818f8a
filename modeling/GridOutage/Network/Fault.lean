import GridOutage.Equipment

/-!
# Why an element cannot join a network (messages of ctg-core)
-/
namespace GridOutage.Network

inductive Fault where
  | blankIdentifier
  | duplicateIdentifier (id : String)
  /-- A voltage level whose nominal voltage is infinite or not a number. -/
  | voltageNotFinite (id : String)
  /-- An HVDC line added as if it had terminals. -/
  | needsStations (id : String)
  | terminalCount (id : String) (expected got : Nat)
  /-- Equipment of another kind added as an HVDC line. -/
  | notHvdcLine (id : String) (kind : ElementKind)
  /-- A reference to an element that is not of the kind the place asks for. -/
  | wrongKind (id : String)
  | unknownElement (id : String)
  /-- An HVDC line of a document that does not name two converter stations. -/
  | stationCount (id : String)
  deriving DecidableEq

namespace Fault

def text : Fault → String
  | .blankIdentifier => "identifier cannot be empty"
  | .duplicateIdentifier id => "duplicate identifier '" ++ id ++ "'"
  | .voltageNotFinite id => "voltage level '" ++ id ++ "' has a non-finite nominal voltage"
  | .needsStations id =>
    "HVDC line '" ++ id ++ "' connects through converter stations; use add_hvdc_line"
  | .terminalCount id expected got =>
    "'" ++ id ++ "' needs " ++ toString expected ++ " terminal(s), got " ++ toString got
  | .notHvdcLine id kind => "'" ++ id ++ "' is a " ++ kind.title ++ ", not an HVDC line"
  | .wrongKind id => "'" ++ id ++ "' exists but has the wrong element kind"
  | .unknownElement id => "unknown element '" ++ id ++ "'"
  | .stationCount id => "HVDC line '" ++ id ++ "' must reference exactly two converter stations"

end Fault

end GridOutage.Network
