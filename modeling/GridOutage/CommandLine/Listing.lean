import GridOutage.Document.JsonText
import GridOutage.OutageList.Export
import GridOutage.Text.Columns

/-!
# Listings (`commands` of ctg-cli)

What the commands print: contingencies as JSON, and matched elements and lists as a table or as
JSON.
-/
namespace GridOutage.CommandLine

open Document (Value)

/-- A value spread over lines, with a line break at the end. -/
def printed (v : Value) : String := Document.JsonText.pretty v ++ "\n"

/-- Rows with aligned cells. -/
def table (rows : List (List String)) : String :=
  let text := String.join (rows.map fun cells => String.intercalate "\t" cells ++ "\n")
  String.ofList (Text.aligned text.toList)

def elementTable (as : List Attributes) : String :=
  table (["ID", "TYPE"] :: as.map fun a => [a.id, a.kind.name])

def elementJson (as : List Attributes) : String := printed (.arr (as.map Attributes.encode))

def contingencyJson (es : List Exported) : String := printed (.arr (es.map Exported.encode))

/-- How many lines a script has; a break at its end starts no further one. -/
def lineCount (s : String) : Nat :=
  match (Text.splitAt '\n' s.toList).reverse with
  | [] :: parts => parts.length
  | parts => parts.length

/-- What a list has, in short. -/
def detail : ListContent → String
  | .form spec => spec.type.name
  | .identifiers groups => toString groups.length ++ " group(s)"
  | .filters ids => toString ids.length ++ " filter(s)"
  | .script s => toString (lineCount s) ++ " line(s)"

/-- The cells of a list, with their names. -/
def summary (l : OutageList) : List (String × String) :=
  [("id", l.id.toText), ("name", l.name), ("type", l.kind.name),
    ("modificationDate", l.modified.toOffsetText), ("detail", detail l.content)]

def listTable (ls : List OutageList) : String :=
  table (["ID", "NAME", "TYPE", "MODIFIED", "DETAIL"] :: ls.map fun l => (summary l).map Prod.snd)

def listJson (ls : List OutageList) : String :=
  printed (.arr (ls.map fun l => .obj ((summary l).map fun (k, s) => (k, .str s))))

end GridOutage.CommandLine
