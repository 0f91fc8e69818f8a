import GridOutage.Binary64.Nearest

/-!
# Document values

What a document of any format says, before it is known what it should say. An object keeps its
entries in the order of the text, repeated names included, for which entry is met first decides
which fault is reported.

Two values are no data. `broken` stands where a text stops being well formed: the part before it
can still be read, so a fault there comes first. `unusable` stands for a number too large for the
format of numbers, a string that is no text or a part nested too deeply, which only matters if it is
looked at.
-/
namespace GridOutage.Document

inductive Value where
  | null
  | bool (b : Bool)
  | int (n : Int)
  | real (x : Binary64)
  | str (s : String)
  | arr (items : List Value)
  | obj (entries : List (String × Value))
  /-- An unquoted scalar of YAML, whose type is the one asked for. -/
  | plain (text : String)
  | unusable
  | broken

namespace Value

instance : Inhabited Value := ⟨.null⟩

mutual

/-- The text breaks off inside the value. -/
def breaks : Value → Bool
  | .broken => true
  | .arr items => anyBreaks items
  | .obj entries => entryBreaks entries
  | _ => false

def anyBreaks : List Value → Bool
  | [] => false
  | v :: vs => v.breaks || anyBreaks vs

def entryBreaks : List (String × Value) → Bool
  | [] => false
  | (_, v) :: es => v.breaks || entryBreaks es

end

mutual

/-- The value with lists and objects nested deeper than a limit made unusable. -/
def limited (limit : Nat) : Value → Value
  | .arr items => match limit with
    | 0 => .unusable
    | n + 1 => .arr (limitedItems n items)
  | .obj entries => match limit with
    | 0 => .unusable
    | n + 1 => .obj (limitedEntries n entries)
  | v => v

def limitedItems (limit : Nat) : List Value → List Value
  | [] => []
  | v :: vs => v.limited limit :: limitedItems limit vs

def limitedEntries (limit : Nat) : List (String × Value) → List (String × Value)
  | [] => []
  | (k, v) :: es => (k, v.limited limit) :: limitedEntries limit es

end

/-- The entry of a name that comes first. -/
def get? (name : String) : Value → Option Value
  | .obj entries => entries.lookup name
  | _ => none

mutual

/-- The value with the entries of every object in the order of their names, of entries with one
name only the last. -/
def sorted : Value → Value
  | .arr items => .arr (sortedItems items)
  | .obj entries => .obj (sortedEntries entries)
  | v => v

def sortedItems : List Value → List Value
  | [] => []
  | v :: vs => v.sorted :: sortedItems vs

def sortedEntries : List (String × Value) → List (String × Value)
  | [] => []
  | (k, v) :: es => place k v.sorted (sortedEntries es)

/-- An entry put before the entries of later names; one of the same name is already there when it
came later in the text. -/
def place (k : String) (v : Value) : List (String × Value) → List (String × Value)
  | [] => [(k, v)]
  | (l, w) :: es =>
    if k = l then (l, w) :: es
    else if k < l then (k, v) :: (l, w) :: es
    else (l, w) :: place k v es

end

end Value

end GridOutage.Document
