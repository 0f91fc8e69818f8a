import GridOutage.CommandLine.Arguments
import GridOutage.CommandLine.Listing
import GridOutage.CommandLine.PatternEngine
import GridOutage.Files
import GridOutage.FilterService
import GridOutage.OutageList.Store

/-!
# Running a command (`commands` of ctg-cli)

A command line asks for files and perhaps for a filter service, and comes to an exit code and a
text. Code 2 stands for a command line or a settings file that is not understood, 1 for a command
that fails, and 0 for success. Only an export prints something when it fails: the lists that
could be exported.
-/
namespace GridOutage.CommandLine

/-- What the program asks of its surroundings. -/
structure Surroundings (m : Type → Type) where
  files : Files m
  /-- Sends the request at an address and waits some seconds for the answer. -/
  exchange : Nat → Address → m (Option Answer)
  /-- An identifier for a list that has none. -/
  fresh : m Uuid
  now : m Instant

/-- What a run comes to. -/
structure Outcome where
  exit : Nat
  output : String := ""
  deriving DecidableEq, Repr

namespace Outcome

def refused : Outcome := ⟨2, ""⟩

def failed : Outcome := ⟨1, ""⟩

def printed (text : String) : Outcome := ⟨0, text⟩

/-- The outcome of printing a result, if there is one. -/
def ofResult {α : Type} (r : Except Error α) (text : α → String) : Outcome :=
  match r with
  | .ok a => printed (text a)
  | .error _ => failed

end Outcome

variable {m : Type → Type} [Monad m]

/-! ## Lists from files -/

/-- A list with what its document leaves open. -/
def complete (s : Surroundings m) (d : OutageList.Draft) : m OutageList := do
  return d.complete (← s.fresh) (← s.now)

/-- The lists in a directory. -/
def directoryLists (s : Surroundings m) (directory : String) : m (Except Error (List OutageList)) := do
  match ← s.files.loadDirectory directory with
  | .ok ds => return .ok (← ds.mapM (complete s))
  | .error e => return .error e

/-- The lists at a path: those of a directory, or the one of a file. -/
def listsAt (s : Surroundings m) (path : String) : m (Except Error (List OutageList)) := do
  if (← s.files.kind? path) == some .directory then directoryLists s path
  else match ← s.files.load Files.listOfText path with
    | .ok d => return .ok [← complete s d]
    | .error e => return .error e

/-- The lists at several paths; the first fault is the error. Mirrors `collect_records`. -/
def collect (s : Surroundings m) : List String → m (Except Error (List OutageList))
  | [] => return .ok []
  | path :: paths => do
    match ← listsAt s path with
    | .ok ls => return (← collect s paths).map (ls ++ ·)
    | .error e => return .error e

/-! ## Commands -/

variable [PatternEngine]

/-- Mirrors `compile::handle`. -/
def runCompile (s : Surroundings m) (filter : String) : m Outcome := do
  let spec ← s.files.load Files.filterOfText filter
  return .ofResult (do (← spec).toScript.mapError .rejected) id

/-- Mirrors `matching::handle`. -/
def runMatching (s : Surroundings m) (network filter : String) (format : Format) : m Outcome := do
  match ← s.files.load Files.networkOfText network with
  | .error _ => return .failed
  | .ok net =>
    let spec ← s.files.load Files.filterOfText filter
    let matched : Except Error (List Attributes) := do
      return ((← (← spec).compile.mapError .rejected).matchingAttributes net)
    return .ofResult matched (match format with
      | .table => elementTable
      | .json => elementJson)

/-- Mirrors `lists::handle`. -/
def runListing (s : Surroundings m) (directory : String) (format : Format) : m Outcome := do
  return .ofResult (← directoryLists s directory) (match format with
    | .table => listTable
    | .json => listJson)

/-- Exports lists in their order. Each is looked up by its identifier among all that were given, of
which the last with an identifier counts. -/
def exportLists (net : Network) (source : Option (FilterSource m)) (ls : List OutageList) :
    m (List (Except Error Exported)) :=
  let store := Store.ofLists ls
  ls.mapM fun l => ((store.get? l.id).getD l).exported net source

/-- The lists that could be exported, and success if all could. -/
def exportOutcome (results : List (Except Error Exported)) : Outcome where
  exit := if results.all fun r => r.toBool then 0 else 1
  output := contingencyJson (results.filterMap Except.toOption)

/-- Mirrors `export::handle`. -/
def runExport (s : Surroundings m) (settings : Settings) (network : String) (lists : List String)
    (threads : Option String) (remote : Option Uuid) (variant : Option String) : m Outcome := do
  match ← s.files.load Files.networkOfText network with
  | .error _ => return .failed
  | .ok net => match ← collect s lists with
    | .error _ => return .failed
    | .ok ls => match Settings.threadCount (threads.getD settings.threads) with
      | .error _ => return .failed
      | .ok _ =>
        let source := remote.map fun grid =>
          FilterService.source s.exchange
            { baseUrl := settings.baseUrl, network := grid, variant := variant,
              timeout := settings.timeout }
        return exportOutcome (← exportLists net source ls)

/-- Runs a command with the settings of its file. -/
def runCommand (s : Surroundings m) (settings : Settings) : Command → m Outcome
  | .compile filter => runCompile s filter
  | .matching network filter format => runMatching s network filter format
  | .exporting network lists threads remote variant =>
    runExport s settings network lists threads remote variant
  | .listing directory format => runListing s directory format

/-- Runs a command line. -/
def run (s : Surroundings m) (arguments : List String) : m Outcome := do
  match Invocation.ofArguments? arguments with
  | none => return .refused
  | some i => match ← s.files.loadSettings i.settings with
    | .error _ => return .refused
    | .ok settings => runCommand s settings i.command

end GridOutage.CommandLine
