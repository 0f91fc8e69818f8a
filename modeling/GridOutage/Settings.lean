import GridOutage.Document.Decode
import GridOutage.Document.Toml
import GridOutage.Error

/-!
# Settings (`config` of ctg-contingency)

What a settings file can say: where the filter service is and how long to wait for it, how many
workers export lists, and how much is logged. Everything has a default, also a whole section. The
number of workers is written as a text, `auto` or a number.
-/
namespace GridOutage

open Document (Decoder Row Value)

/-- Mirrors `ServiceConfig`. -/
structure Settings where
  /-- Where the filter service is. -/
  baseUrl : String := "http://localhost:5027"
  /-- How many seconds a request may take. -/
  timeout : Nat := 30
  threads : String := "auto"
  level : String := "info"
  deriving DecidableEq, Repr

namespace Settings

/-- The settings without a file. -/
def standard : Settings := {}

/-- The largest number of 64 bits. -/
def largestWord : Nat := Nat.pow 2 64 - 1

/-- A whole number of 64 bits without a sign. -/
def word : Decoder Nat
  | .int n => if 0 ≤ n ∧ n ≤ largestWord then .ok n.toNat else .error .invalidValue
  | v => .error (Document.mismatch v)

/-- A number without a sign but perhaps a plus. -/
def readWord? (s : String) : Option Nat :=
  let digits := match s.toList with
    | '+' :: r => r
    | r => r
  (Text.natural? 10 digits).filter (· ≤ largestWord)

/-- How many workers a text asks for, 0 standing for one on each processor. Mirrors
`WorkerConfig::thread_count`. -/
def threadCount (setting : String) : Except Error Nat :=
  let text := Text.trim setting
  if Text.sameIgnoringCase text "auto" then .ok 0
  else match readWord? text with
    | some n => .ok n
    | none => .error (.threads text)

/-- The settings of the filter service. -/
def serviceRow : Row (String × Nat) :=
  .mk <$> .defaulted "base_url" Document.text standard.baseUrl <*>
    .defaulted "timeout_seconds" word standard.timeout

def workersRow : Row String := .defaulted "threads" Document.text standard.threads

def loggingRow : Row String := .defaulted "level" Document.text standard.level

/-- A section of the file, with the values it has when it is absent. -/
def sectionField {α : Type} (name : String) (r : Row α) (absent : α) : Row α :=
  .defaulted name (r.decode .toml) absent

def row : Row Settings :=
  (fun service threads level =>
    { baseUrl := service.1, timeout := service.2, threads := threads, level := level }) <$>
    sectionField "filter_service" serviceRow (standard.baseUrl, standard.timeout) <*>
    sectionField "workers" workersRow standard.threads <*>
    sectionField "logging" loggingRow standard.level

/-- The settings of a text. A file is refused as a whole when anything in it is wrong, the number of
workers included. Mirrors `load_service_config`. -/
def ofText (s : String) : Except Error Settings := do
  let refused : Error := .undecodable .configuration .malformed
  let some v := Document.Toml.read? s | throw refused
  let settings ← (row.decode .toml v).mapError fun _ => refused
  let _ ← threadCount settings.threads
  return settings

end Settings

end GridOutage
