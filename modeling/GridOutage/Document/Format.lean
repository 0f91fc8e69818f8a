import GridOutage.Document.Json
import GridOutage.Document.Yaml.Reader
import GridOutage.Document.Decode
import GridOutage.Text.Blank

/-!
# Documents as text (`loader` of ctg-core)

A document is read as the format that the extension of its file name says. Without a known
extension it is read as YAML, and where that fails as JSON, whose fault is then the one reported.
-/
namespace GridOutage.Document

/-! ## File names -/

/-- The last part of a path, if it names a file or a directory. -/
def fileName? (path : String) : Option String :=
  match ((path.splitOn "/").filter fun p => p != "" && p != ".").getLast? with
  | some ".." => none
  | name => name

/-- What stands after the last point of a name. A name with only a point at its front has no
extension. -/
def extension? (name : String) : Option String :=
  match (name.splitOn ".").reverse with
  | last :: first :: more => if first == "" && more.isEmpty then none else some last
  | _ => none

/-! ## Formats -/

inductive Format where
  | yaml
  | json
  /-- YAML, or else JSON. -/
  | either
  deriving DecidableEq, Repr

namespace Format

/-- The format of an extension that is one of documents. -/
def ofExtension? (e : String) : Option Format :=
  if Text.sameIgnoringCase e "yaml" || Text.sameIgnoringCase e "yml" then some .yaml
  else if Text.sameIgnoringCase e "json" then some .json
  else none

/-- The format that a file name says. -/
def ofName? (name : String) : Option Format := (extension? name).bind ofExtension?

/-- The format to read the file at a path in. -/
def ofPath (path : String) : Format := ((fileName? path).bind ofName?).getD .either

end Format

/-- Decodes what was read. A text that goes on after its document is malformed, but a fault in the
document comes first. -/
def decodeRead {α : Type} (d : Decoder α) (r : Value × Bool) : Result α := do
  let a ← d r.1
  if r.2 then .ok a else .error .malformed

/-- How deep lists and objects may be nested in a part that is read before its type is known. -/
def nesting : Origin → Nat
  | .json => 127
  | _ => 128

def decodeJson {α : Type} (d : Origin → Decoder α) (text : String) : Result α :=
  decodeRead (d .json) (Json.read text)

def decodeYaml {α : Type} (d : Origin → Decoder α) (text : String) : Result α :=
  decodeRead (d .yaml) (Yaml.read text)

/-- Decodes the text of a document. -/
def decodeText {α : Type} (d : Origin → Decoder α) (format : Format) (text : String) : Result α :=
  match format with
  | .yaml => decodeYaml d text
  | .json => decodeJson d text
  | .either => match decodeYaml d text with
    | .ok a => .ok a
    | .error _ => decodeJson d text

end GridOutage.Document
