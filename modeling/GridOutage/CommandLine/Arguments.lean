import GridOutage.Settings
import GridOutage.Uuid

/-!
# Command line arguments (`cli` of ctg-cli)

A command line is a list of options of the program, the name of a command, and the options and
operands of the command in any order. An option is written `--name value` or `--name=value` and
given at most once; a value that starts with a hyphen needs the second form. After `--` there are
only operands.

`Invocation.ofArguments?` is the invocation that a command line means, if it means one.
-/
namespace GridOutage.CommandLine

/-! ## What can be asked for -/

/-- How much is logged. -/
inductive LogLevel where
  | error | warn | info | debug | trace
  deriving DecidableEq, Repr

namespace LogLevel

def all : List LogLevel := [.error, .warn, .info, .debug, .trace]

def name : LogLevel → String
  | .error => "error"
  | .warn => "warn"
  | .info => "info"
  | .debug => "debug"
  | .trace => "trace"

/-- The level of a name in any case, or of a number from 1 for errors to 5 for everything. -/
def ofText? (s : String) : Option LogLevel :=
  match Settings.readWord? s with
  | some n => if n = 0 then none else all[n - 1]?
  | none => all.find? fun l => Text.sameIgnoringCase l.name s

end LogLevel

/-- How a listing is written. -/
inductive Format where
  | table | json
  deriving DecidableEq, Repr

namespace Format

def ofText? : String → Option Format
  | "table" => some .table
  | "json" => some .json
  | _ => none

end Format

/-- Mirrors `Commands`. -/
inductive Command where
  /-- The script of a filter. -/
  | compile (filter : String)
  /-- The elements of a network that a filter matches. -/
  | matching (network filter : String) (format : Format)
  /-- The contingencies of lists on a network. The lists are files or directories of files. -/
  | exporting (network : String) (lists : List String) (threads : Option String)
      (remote : Option Uuid) (variant : Option String)
  /-- A summary of the lists in a directory. -/
  | listing (directory : String) (format : Format)
  deriving DecidableEq

/-- Mirrors `Cli`. -/
structure Invocation where
  settings : String := "ctg.toml"
  level : Option LogLevel := none
  command : Command
  deriving DecidableEq

/-! ## Options and operands -/

/-- Options with their values, and operands. -/
structure Words where
  options : List (String × String) := []
  operands : List String := []

namespace Words

/-- An option with its value, unless it is unknown or given before. -/
def addOption (known : List String) (w : Words) (name value : String) : Option Words :=
  if known.contains name && (w.options.lookup name).isNone then
    some { w with options := w.options ++ [(name, value)] }
  else none

def addOperand (w : Words) (value : String) : Words := { w with operands := w.operands ++ [value] }

/-- The name and the value of an option in one word. -/
def joined? (word : String) : Option (String × String) :=
  match word.splitOn "=" with
  | name :: value :: more => some (name, String.intercalate "=" (value :: more))
  | _ => none

/-- A word that starts an option. -/
def isOption (word : String) : Bool := word.startsWith "-" && word != "-"

/-- Reads words up to the first operand, or to the end where operands are `mixed` with options.
The result has the words that are left. -/
def read (known : List String) (mixed : Bool) : Words → List String → Option (Words × List String)
  | w, [] => some (w, [])
  | w, word :: rest =>
    if word == "--" then if mixed then some (rest.foldl addOperand w, []) else none
    else if isOption word then
      match joined? word with
      | some (name, value) => do read known mixed (← w.addOption known name value) rest
      | none => match rest with
        | value :: rest =>
          if isOption value then none
          else do read known mixed (← w.addOption known word value) rest
        | [] => none
    else if mixed then read known mixed (w.addOperand word) rest
    else some (w, word :: rest)

/-- The value of an option, if it is given; a value that its reader refuses is a fault. -/
def value? {α : Type} (w : Words) (name : String) (read : String → Option α) : Option (Option α) :=
  match w.options.lookup name with
  | some v => (read v).map some
  | none => some none

end Words

/-- A path, which is not empty. -/
def path? (s : String) : Option String := if s == "" then none else some s

/-! ## Commands -/

namespace Command

/-- The options that a command knows. -/
def optionNames : String → List String
  | "match" | "lists" => ["--format"]
  | "export" => ["--threads", "--network-uuid", "--variant-id"]
  | _ => []

/-- A command of its name, options and operands. -/
def ofWords? (name : String) (w : Words) : Option Command := do
  let operands ← w.operands.mapM path?
  match name, operands with
  | "compile", [filter] => some (.compile filter)
  | "match", [network, filter] =>
    let format ← w.value? "--format" Format.ofText?
    some (.matching network filter (format.getD .table))
  | "export", network :: list :: lists =>
    let threads ← w.value? "--threads" some
    let remote ← w.value? "--network-uuid" Uuid.ofText?
    let variant ← w.value? "--variant-id" some
    if variant.isSome && remote.isNone then none
    else some (.exporting network (list :: lists) threads remote variant)
  | "lists", [directory] =>
    let format ← w.value? "--format" Format.ofText?
    some (.listing directory (format.getD .table))
  | _, _ => none

end Command

namespace Invocation

/-- What a command line asks for. -/
def ofArguments? (arguments : List String) : Option Invocation := do
  let (w, rest) ← Words.read ["--config", "--log-level"] false {} arguments
  let settings ← w.value? "--config" path?
  let level ← w.value? "--log-level" LogLevel.ofText?
  match rest with
  | name :: rest =>
    let (words, _) ← Words.read (Command.optionNames name) true {} rest
    let command ← Command.ofWords? name words
    some { settings := settings.getD "ctg.toml", level := level, command := command }
  | [] => none

end Invocation

end GridOutage.CommandLine
