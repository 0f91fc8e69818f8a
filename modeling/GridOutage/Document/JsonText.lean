import GridOutage.Binary64.Shortest
import GridOutage.Document.Value

/-!
# Writing JSON (serde_json)

A value on one line, or spread over lines with two spaces for each level. Only values that
documents are made of are written; the others are written as null.
-/
namespace GridOutage.Document.JsonText

/-- Numbers with a fraction or an exponent always. -/
def layout : Binary64.Layout := ⟨some (-5, 15), true⟩

/-- A character inside a string: quotes, backslashes and control characters are escaped. -/
def charText (c : Char) : List Char :=
  match c with
  | '"' => ['\\', '"']
  | '\\' => ['\\', '\\']
  | '\n' => ['\\', 'n']
  | '\r' => ['\\', 'r']
  | '\t' => ['\\', 't']
  | '\x08' => ['\\', 'b']
  | '\x0c' => ['\\', 'f']
  | c =>
    if c.toNat < 0x20 then
      ['\\', 'u', '0', '0', Nat.digitChar (c.toNat / 16), Nat.digitChar (c.toNat % 16)]
    else [c]

def stringText (s : String) : List Char := '"' :: s.toList.flatMap charText ++ ['"']

/-- A value that has no parts. -/
def scalar : Value → List Char
  | .bool true => ['t', 'r', 'u', 'e']
  | .bool false => ['f', 'a', 'l', 's', 'e']
  | .int n => (toString n).toList
  | .real x => layout.render x
  | .str s => stringText s
  | _ => ['n', 'u', 'l', 'l']

mutual

/-- A value on one line. -/
def compact : Value → List Char
  | .arr items => '[' :: compactItems items ++ [']']
  | .obj entries => '\x7b' :: compactEntries entries ++ ['\x7d']
  | v => scalar v

def compactItems : List Value → List Char
  | [] => []
  | [v] => compact v
  | v :: w :: vs => compact v ++ ',' :: compactItems (w :: vs)

def compactEntries : List (String × Value) → List Char
  | [] => []
  | [(k, v)] => stringText k ++ ':' :: compact v
  | (k, v) :: e :: es => stringText k ++ ':' :: compact v ++ ',' :: compactEntries (e :: es)

end

/-- The start of a line at a level. -/
def line (level : Nat) : List Char := '\n' :: List.replicate (2 * level) ' '

mutual

/-- A value spread over lines, its parts one level below its own. -/
def spread (level : Nat) : Value → List Char
  | .arr [] => ['[', ']']
  | .arr (v :: vs) => '[' :: spreadItems (level + 1) (v :: vs) ++ line level ++ [']']
  | .obj [] => ['\x7b', '\x7d']
  | .obj (e :: es) => '\x7b' :: spreadEntries (level + 1) (e :: es) ++ line level ++ ['\x7d']
  | v => scalar v

def spreadItems (level : Nat) : List Value → List Char
  | [] => []
  | [v] => line level ++ spread level v
  | v :: w :: vs => line level ++ spread level v ++ ',' :: spreadItems level (w :: vs)

def spreadEntries (level : Nat) : List (String × Value) → List Char
  | [] => []
  | [(k, v)] => line level ++ stringText k ++ ':' :: ' ' :: spread level v
  | (k, v) :: e :: es =>
    line level ++ stringText k ++ ':' :: ' ' :: spread level v ++ ',' :: spreadEntries level (e :: es)

end

def oneLine (v : Value) : String := String.ofList (compact v)

def pretty (v : Value) : String := String.ofList (spread 0 v)

end GridOutage.Document.JsonText
