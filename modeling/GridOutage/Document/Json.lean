import GridOutage.Document.Decode

/-!
# Reading JSON (serde_json)

RFC 8259 without leniency: no byte order mark, no control characters inside strings, surrogates
only in pairs, nothing but blanks after the value. A text that is not well formed still gives the
value up to its first fault, with `broken` where the fault is.
-/
namespace GridOutage.Document.Json

/-- What was read, and the text after it unless the text breaks off inside. -/
abbrev Read := Value × Option (List Char)

def isSpace (c : Char) : Bool := c == ' ' || c == '\n' || c == '\r' || c == '\t'

def skip (cs : List Char) : List Char := cs.dropWhile isSpace

/-! ## Strings -/

/-- The number of four hex digits. -/
def hex4? (a b c d : Char) : Option Nat := Text.natural? 16 [a, b, c, d]

/-- The character that a letter stands for after a backslash. -/
def escape? : Char → Option Char
  | '"' => some '"'
  | '\\' => some '\\'
  | '/' => some '/'
  | 'b' => some '\x08'
  | 'f' => some '\x0c'
  | 'n' => some '\n'
  | 'r' => some '\r'
  | 't' => some '\t'
  | _ => none

/-- The rest of a string after its opening quote; the characters read so far come reversed. A string
with half a surrogate pair is well formed, but it is no text. -/
def string? (whole : Bool) (done : List Char) : List Char → Option (Option String × List Char)
  | '"' :: rest => some (if whole then some (String.ofList done.reverse) else none, rest)
  | '\\' :: 'u' :: a :: b :: c :: d :: rest => do
    let code ← hex4? a b c d
    if 0xD800 ≤ code ∧ code < 0xDC00 then
      match rest with
      | '\\' :: 'u' :: e :: f :: g :: h :: tail => do
        let low ← hex4? e f g h
        if 0xDC00 ≤ low ∧ low < 0xE000 then
          string? whole (Char.ofNat (0x10000 + (code - 0xD800) * 0x400 + (low - 0xDC00)) :: done) tail
        else string? false done tail
      | rest => string? false done rest
    else if 0xDC00 ≤ code ∧ code < 0xE000 then string? false done rest
    else string? whole (Char.ofNat code :: done) rest
  | '\\' :: c :: rest => do string? whole ((← escape? c) :: done) rest
  | c :: rest => if c.toNat < 0x20 then none else string? whole (c :: done) rest
  | [] => none

/-- The value of a string. -/
def stringValue : Option String → Value
  | some s => .str s
  | none => .unusable

/-! ## Numbers -/

/-- The digits at the front of a text. -/
def digits (cs : List Char) : List Char × List Char := (cs.takeWhile Char.isDigit, cs.dropWhile Char.isDigit)

def digitsValue (ds : List Char) : Nat := (Text.natural? 10 ds).getD 0

/-- The fraction after a whole part, if there is one. -/
def fraction? (cs : List Char) : Option (List Char × List Char) :=
  match cs with
  | '.' :: r => let (ds, rest) := digits r; if ds.isEmpty then none else some (ds, rest)
  | _ => some ([], cs)

/-- The exponent after a number, if there is one. -/
def exponent? (cs : List Char) : Option (Option Int × List Char) :=
  match cs with
  | e :: r =>
    if e = 'e' ∨ e = 'E' then
      let (negative, r) := match r with
        | '-' :: r => (true, r)
        | '+' :: r => (false, r)
        | r => (false, r)
      let (ds, rest) := digits r
      if ds.isEmpty then none
      else some (some (if negative then -(digitsValue ds : Int) else digitsValue ds), rest)
    else some (none, cs)
  | [] => some (none, cs)

/-- Puts digits after those of a number of 64 bits while there is room, and gives the others back. -/
def fitting (n : Nat) : List Char → Nat × List Char
  | [] => (n, [])
  | c :: cs =>
    let next := 10 * n + (c.toNat - '0'.toNat)
    if next < Nat.pow 2 64 then fitting next cs else (n, c :: cs)

/-- What is kept of the digits of a number: as many as 64 bits have room for, of the whole part and
then of the fraction. A digit of the whole part that is left out still counts as a place. Mirrors
`parse_long_integer` and `parse_decimal`. -/
def kept (whole fraction : List Char) (exponent : Int) : Binary64.Decimal :=
  let (front, spare) := fitting 0 whole
  let (coefficient, lost) := fitting front fraction
  ⟨coefficient, spare.length + lost.length - fraction.length + exponent⟩

/-- The value of a number: whole when it is written so and fits 64 bits. A number that is not whole
is rounded step by step, so it is not always the nearest one. Mirrors `parse_any_number`. -/
def numberValue (negative : Bool) (whole fraction : List Char) (exponent : Option Int) : Value :=
  let n := digitsValue whole
  if fraction.isEmpty && exponent.isNone && !(negative && n == 0) &&
      (if negative then n ≤ Nat.pow 2 63 else n < Nat.pow 2 64) then
    .int (if negative then -(n : Int) else n)
  else
    let x := Binary64.ofRank negative (kept whole fraction (exponent.getD 0)).steppedRank
    if x.isFinite then .real x else .unusable

/-- A number after its sign. -/
def number? (negative : Bool) (cs : List Char) : Option (Value × List Char) := do
  let (whole, rest) := digits cs
  if whole.isEmpty || (whole.head? == some '0' && whole.length != 1) then none
  else
    let (fraction, rest) ← fraction? rest
    let (exponent, rest) ← exponent? rest
    some (numberValue negative whole fraction exponent, rest)

/-! ## Values -/

/-- A literal name and its value. -/
def literal (word : List Char) (v : Value) (cs : List Char) : Read :=
  if word.isPrefixOf cs then (v, some (cs.drop word.length)) else (.broken, none)

/-- What an optional reader read, `broken` if it failed. -/
def orBroken : Option (Value × List Char) → Read
  | some (v, rest) => (v, some rest)
  | none => (.broken, none)

mutual

/-- A value at the front of a text. The fuel is at least the length of the text. -/
def value (fuel : Nat) (cs : List Char) : Read :=
  match fuel with
  | 0 => (.broken, none)
  | fuel + 1 =>
    match skip cs with
    | 'n' :: _ => literal ['n', 'u', 'l', 'l'] .null (skip cs)
    | 't' :: _ => literal ['t', 'r', 'u', 'e'] (.bool true) (skip cs)
    | 'f' :: _ => literal ['f', 'a', 'l', 's', 'e'] (.bool false) (skip cs)
    | '"' :: r => orBroken ((string? true [] r).map fun (s, rest) => (stringValue s, rest))
    | '-' :: r => orBroken (number? true r)
    | '[' :: r => match skip r with
      | ']' :: rest => (.arr [], some rest)
      | r => let (vs, rest) := items fuel r; (.arr vs, rest)
    | '\x7b' :: r => match skip r with
      | '\x7d' :: rest => (.obj [], some rest)
      | r => let (es, rest) := entries fuel r; (.obj es, rest)
    | r => orBroken (number? false r)

/-- The values of a list up to its closing bracket. -/
def items (fuel : Nat) (cs : List Char) : List Value × Option (List Char) :=
  match fuel with
  | 0 => ([.broken], none)
  | fuel + 1 =>
    match value fuel cs with
    | (v, none) => ([v], none)
    | (v, some rest) => match skip rest with
      | ']' :: rest => ([v], some rest)
      | ',' :: rest => let (vs, rest) := items fuel rest; (v :: vs, rest)
      | _ => ([v, .broken], none)

/-- The entries of an object up to its closing brace. An entry that breaks off before its value
has the value `broken`; one that breaks off before its name has no name either. -/
def entries (fuel : Nat) (cs : List Char) : List (String × Value) × Option (List Char) :=
  match fuel with
  | 0 => ([("", .broken)], none)
  | fuel + 1 =>
    match skip cs with
    | '"' :: r => match string? true [] r with
      | none | some (none, _) => ([("", .broken)], none)
      | some (some k, rest) => match skip rest with
        | ':' :: rest => match value fuel rest with
          | (v, none) => ([(k, v)], none)
          | (v, some rest) => match skip rest with
            | '\x7d' :: rest => ([(k, v)], some rest)
            | ',' :: rest => let (es, rest) := entries fuel rest; ((k, v) :: es, rest)
            | _ => ([(k, v), ("", .broken)], none)
        | _ => ([(k, .broken)], none)
    | _ => ([("", .broken)], none)

end

/-- The value of a text, and whether nothing but blanks comes after it. -/
def read (s : String) : Value × Bool :=
  match value (s.length + 1) s.toList with
  | (v, some rest) => (v, (skip rest).isEmpty)
  | (v, none) => (v, false)

end GridOutage.Document.Json
