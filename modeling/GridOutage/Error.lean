import GridOutage.Document.Fault
import GridOutage.Network.Fault
import GridOutage.OutageList.Fault

/-!
# Errors (`error` of ctg-core)

Every way an operation can fail, by its cause. `kind` sorts the causes by what a caller can do
about them, and `message` is the text that is shown.
-/
namespace GridOutage

/-- What an error means to a caller. -/
inductive ErrorKind where
  /-- An invalid filter or list; trying again does not help. -/
  | configuration
  /-- A record or an element that does not exist. -/
  | notFound
  /-- A service that did not answer; trying again may help. -/
  | unavailable
  /-- A network that is not well formed. -/
  | network
  /-- A document that cannot be read. -/
  | parse
  /-- A file that cannot be read. -/
  | io
  | other
  deriving DecidableEq, Repr, Inhabited

namespace ErrorKind

def all : List ErrorKind :=
  [.configuration, .notFound, .unavailable, .network, .parse, .io, .other]

/-- What stands before the text of an error of the kind. -/
def lead : ErrorKind → String
  | .configuration => "Configuration error: "
  | .notFound => "Not found: "
  | .unavailable => "Upstream unavailable: "
  | .network => "Network error: "
  | .parse => "Parse error: "
  | .io => "I/O error: "
  | .other => ""

end ErrorKind

/-- Mirrors `CtgError`. -/
inductive Error where
  /-- A filter that breaks its own rules. -/
  | rejected (why : Filter.Rejection)
  | network (why : Network.Fault)
  | list (why : OutageList.Fault)
  /-- An element of a kind that no contingency can trip. -/
  | notTrippable (id : String) (kind : ElementKind)
  /-- A worker setting that is no thread count. -/
  | threads (setting : String)
  /-- A document that cannot be decoded. -/
  | undecodable (kind : ErrorKind) (fault : Document.Fault)
  /-- A file or directory that cannot be read. -/
  | unreadable
  /-- Filters that the filter service does not have. -/
  | filtersUnknown (filters : List Uuid) (grid : Uuid)
  /-- An answer of the filter service that is an error. -/
  | serviceStatus (code : Nat)
  /-- No complete answer of the filter service. -/
  | serviceUnreachable
  /-- An error reported from outside, with its own text. -/
  | reported (kind : ErrorKind) (text : String)
  deriving DecidableEq

namespace Error

def kind : Error → ErrorKind
  | .rejected _ => .configuration
  | .network _ => .network
  | .list (.unknown _) => .notFound
  | .list _ => .configuration
  | .notTrippable _ _ => .configuration
  | .threads _ => .configuration
  | .undecodable kind _ => kind
  | .unreadable => .io
  | .filtersUnknown _ _ => .notFound
  | .serviceStatus _ => .unavailable
  | .serviceUnreachable => .unavailable
  | .reported kind _ => kind

/-- The text of an error, if it has one that does not depend on where the program runs. -/
def text? : Error → Option String
  | .rejected why => some why.text
  | .network why => some why.text
  | .list why => some why.text
  | .notTrippable id kind =>
    some ("'" ++ id ++ "' has kind " ++ kind.name ++ " which cannot be part of a contingency")
  | .threads setting =>
    some ("workers.threads must be 'auto' or a number, got '" ++ setting ++ "'")
  | .undecodable _ _ => none
  | .unreadable => none
  | .filtersUnknown filters grid =>
    some ("filters [" ++ String.intercalate ", " (filters.map Uuid.toText) ++ "] on network " ++
      grid.toText)
  | .serviceStatus code => some ("filter service returned status " ++ toString code)
  | .serviceUnreachable => none
  | .reported _ text => some text

/-- The message of an error: what its kind puts first, then its text. Of a document only the fault
is told. -/
def message? : Error → Option String
  | .undecodable _ fault => fault.text?
  | e => e.text?.map (e.kind.lead ++ ·)

/-- Trying the same operation again may succeed. Mirrors `CtgError::is_retryable`. -/
def retryable (e : Error) : Bool := e.kind == .unavailable

def isNotFound (e : Error) : Bool := e.kind == .notFound

end Error

end GridOutage
