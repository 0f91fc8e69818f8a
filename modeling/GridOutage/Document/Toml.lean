import GridOutage.Document.Value
import GridOutage.Instant
import GridOutage.Text.Digits

/-!
# Reading TOML (toml)

A TOML 1.0 document as a value. The text is first read as a list of lines, each a header or an
assignment, and these then build up the tables. Tables are told apart by how they came to be: a
header opens a table at most once, and it opens none that assignments have made.

Dates and times have no use here; they are read and stand as an object without entries.
-/
namespace GridOutage.Document.Toml

/-- What is read at the front of a text, and the text after it. -/
abbrev Reader (α : Type) := List Char → Option (α × List Char)

/-! ## Blanks and lines -/

def isGap (c : Char) : Bool := c == ' ' || c == '\t'

def skipGap (cs : List Char) : List Char := cs.dropWhile isGap

/-- A character that comments and strings may hold as it is. -/
def isText (c : Char) : Bool := c == '\t' || (0x20 ≤ c.toNat && c.toNat != 0x7F)

/-- Past a line break. -/
def newline? : List Char → Option (List Char)
  | '\n' :: r | '\r' :: '\n' :: r => some r
  | _ => none

def skipComment : List Char → List Char
  | '#' :: r => r.dropWhile isText
  | cs => cs

/-- Past blanks, comments and breaks. -/
def skipLines : Nat → List Char → List Char
  | 0, cs => cs
  | n + 1, cs =>
    let r := skipComment (skipGap cs)
    match newline? r with
    | some r => skipLines n r
    | none => r

/-- Past the rest of a line, which holds nothing but a comment. -/
def lineEnd? (cs : List Char) : Option (List Char) :=
  match skipComment (skipGap cs) with
  | [] => some []
  | r => newline? r

/-! ## Strings -/

def escape? : Char → Option Char
  | 'b' => some '\x08'
  | 't' => some '\t'
  | 'n' => some '\n'
  | 'f' => some '\x0c'
  | 'r' => some '\r'
  | '"' => some '"'
  | '\\' => some '\\'
  | _ => none

/-- The character of some hex digits. -/
def coded? (ds : List Char) : Option Char := do
  let n ← Text.natural? 16 ds
  if n.isValidChar then some (Char.ofNat n) else none

/-- The character of an escape, after its backslash. -/
def escaped? : Reader Char
  | 'u' :: a :: b :: c :: d :: r => (coded? [a, b, c, d]).map (·, r)
  | 'U' :: a :: b :: c :: d :: e :: f :: g :: h :: r => (coded? [a, b, c, d, e, f, g, h]).map (·, r)
  | c :: r => (escape? c).map (·, r)
  | [] => none

/-- The rest of a string on one line, up to its closing mark. -/
def line? (mark : Char) (escapes : Bool) : Nat → List Char → Reader String
  | 0, _, _ => none
  | n + 1, done, cs => match cs with
    | c :: r =>
      if c == mark then some (String.ofList done.reverse, r)
      else if escapes && c == '\\' then do
        let (d, r) ← escaped? r
        line? mark escapes n (d :: done) r
      else if isText c then line? mark escapes n (c :: done) r
      else none
    | [] => none

/-- Past blanks and breaks. -/
def skipSpace : Nat → List Char → List Char
  | 0, cs => cs
  | n + 1, cs => match newline? (skipGap cs) with
    | some r => skipSpace n r
    | none => skipGap cs

/-- The rest of a string over several lines, up to three closing marks. Up to two more marks stand
before them and belong to the string. -/
def lines? (mark : Char) (escapes : Bool) : Nat → List Char → Reader String
  | 0, _, _ => none
  | n + 1, done, cs =>
    let marks := (cs.takeWhile (· == mark)).length
    if 3 ≤ marks then
      let extra := min (marks - 3) 2
      some (String.ofList (List.replicate extra mark ++ done).reverse, cs.drop (extra + 3))
    else match cs with
      | c :: r =>
        if escapes && c == '\\' then
          match newline? (skipGap r) with
          | some r => lines? mark escapes n done (skipSpace (r.length + 1) r)
          | none => do
            let (d, r) ← escaped? r
            lines? mark escapes n (d :: done) r
        else if isText c then lines? mark escapes n (c :: done) r
        else do lines? mark escapes n ('\n' :: done) (← newline? cs)
      | [] => none

/-- A string of any form. -/
def string? (cs : List Char) : Option (String × List Char) :=
  let whole (mark : Char) (escapes : Bool) (r : List Char) : Option (String × List Char) :=
    let r := (newline? r).getD r
    lines? mark escapes (r.length + 1) [] r
  match cs with
  | '"' :: '"' :: '"' :: r => whole '"' true r
  | '\'' :: '\'' :: '\'' :: r => whole '\'' false r
  | '"' :: r => line? '"' true (r.length + 1) [] r
  | '\'' :: r => line? '\'' false (r.length + 1) [] r
  | _ => none

/-! ## Keys -/

def isBare (c : Char) : Bool := c.isAlphanum || c == '_' || c == '-'

def simpleKey? (cs : List Char) : Option (String × List Char) :=
  match cs with
  | '"' :: r => line? '"' true (r.length + 1) [] r
  | '\'' :: r => line? '\'' false (r.length + 1) [] r
  | _ =>
    let name := cs.takeWhile isBare
    if name.isEmpty then none else some (String.ofList name, cs.drop name.length)

/-- A key of several parts with points between them, as its first part and the others. -/
def key? : Nat → Reader (String × List String)
  | 0, _ => none
  | n + 1, cs => do
    let (k, r) ← simpleKey? (skipGap cs)
    match skipGap r with
    | '.' :: r => do
      let ((l, more), r) ← key? n r
      some ((k, l :: more), r)
    | r => some ((k, []), r)

/-! ## Numbers and dates -/

/-- Digits of a base, with single underscores between them. -/
def digits? (base : Nat) (cs : List Char) : Option (List Char × List Char) :=
  let isDigit (c : Char) : Bool := (Text.digit? base c).isSome
  let run := cs.takeWhile fun c => isDigit c || c == '_'
  let parts := (String.ofList run).splitOn "_"
  if parts.any (·.isEmpty) then none
  else some (run.filter isDigit, cs.drop run.length)

/-- A whole number, which 64 bits hold. -/
def integer? (n : Int) : Option Value :=
  if -(Nat.pow 2 63 : Nat) ≤ n ∧ n < (Nat.pow 2 63 : Nat) then some (.int n) else none

/-- A number in another base, after its mark. -/
def based? (base : Nat) (cs : List Char) : Option (Value × List Char) := do
  let (ds, r) ← digits? base cs
  some (← integer? (← Text.natural? base ds), r)

def exponent? (cs : List Char) : Option (Int × List Char) := do
  match cs with
  | '-' :: r => let (ds, r) ← digits? 10 r; some (-(← Text.natural? 10 ds), r)
  | '+' :: r => let (ds, r) ← digits? 10 r; some (← Text.natural? 10 ds, r)
  | r => let (ds, r) ← digits? 10 r; some (← Text.natural? 10 ds, r)

def finite? (x : Binary64) : Option Value := if x.isFinite then some (.real x) else none

/-- A number after its sign. -/
def unsigned? (negative : Bool) (cs : List Char) : Option (Value × List Char) :=
  match cs with
  | 'i' :: 'n' :: 'f' :: r => some (.real (.infinity negative), r)
  | 'n' :: 'a' :: 'n' :: r => some (.real .nan, r)
  | _ => do
    let (whole, r) ← digits? 10 cs
    if whole.head? == some '0' && whole.length != 1 then none
    else
      let (fraction, r, isReal) ← match r with
        | '.' :: r => (digits? 10 r).map fun (ds, r) => (ds, r, true)
        | r => some ([], r, false)
      let (exponent, r, isReal) ← match r with
        | 'e' :: r | 'E' :: r => (exponent? r).map fun (e, r) => (e, r, true)
        | r => some ((0 : Int), r, isReal)
      let coefficient ← Text.natural? 10 (whole ++ fraction)
      if isReal then
        some (← finite? (.ofDecimal negative coefficient (exponent - fraction.length)), r)
      else some (← integer? (if negative then -(coefficient : Int) else coefficient), r)

def number? (cs : List Char) : Option (Value × List Char) :=
  match cs with
  | '+' :: r => unsigned? false r
  | '-' :: r => unsigned? true r
  | '0' :: 'x' :: r => based? 16 r
  | '0' :: 'o' :: r => based? 8 r
  | '0' :: 'b' :: r => based? 2 r
  | r => unsigned? false r

/-- Exactly `n` digits, as a number within bounds. -/
def fixed? (n low high : Nat) (cs : List Char) : Option (Nat × List Char) := do
  let ds := cs.take n
  if ds.length < n then none
  else
    let v ← Text.natural? 10 ds
    if low ≤ v ∧ v ≤ high then some (v, cs.drop n) else none

def mark? (c : Char) : List Char → Option (List Char)
  | d :: r => if c = d then some r else none
  | [] => none

/-- A time of day. -/
def time? (cs : List Char) : Option (List Char) := do
  let (_, r) ← fixed? 2 0 23 cs
  let (_, r) ← fixed? 2 0 59 (← mark? ':' r)
  let (_, r) ← fixed? 2 0 60 (← mark? ':' r)
  match r with
  | '.' :: r =>
    let ds := r.takeWhile Char.isDigit
    if ds.isEmpty then none else some (r.drop ds.length)
  | r => some r

def date? (cs : List Char) : Option (List Char) := do
  let (year, r) ← fixed? 4 0 9999 cs
  let (month, r) ← fixed? 2 1 12 (← mark? '-' r)
  let (day, r) ← fixed? 2 1 31 (← mark? '-' r)
  if Instant.daysInMonth year month < day then none else some r

/-- A zone after a time, if there is one. -/
def zone? : List Char → Option (List Char)
  | 'Z' :: r | 'z' :: r => some r
  | '+' :: r | '-' :: r => do
    let (_, r) ← fixed? 2 0 23 r
    let (_, r) ← fixed? 2 0 59 (← mark? ':' r)
    some r
  | r => some r

/-- A date, a time or both. -/
def instant? (cs : List Char) : Option (Value × List Char) :=
  match date? cs with
  | some r => match r with
    | c :: r' =>
      if c == 'T' || c == 't' then (time? r').bind zone? |>.map (.obj [], ·)
      else if c == ' ' then some (.obj [], ((time? r').bind zone?).getD r)
      else some (.obj [], r)
    | [] => some (.obj [], r)
  | none => (time? cs).map (.obj [], ·)

/-- A literal name, a date or a number. -/
def scalar? (cs : List Char) : Option (Value × List Char) :=
  if ['t', 'r', 'u', 'e'].isPrefixOf cs then some (.bool true, cs.drop 4)
  else if ['f', 'a', 'l', 's', 'e'].isPrefixOf cs then some (.bool false, cs.drop 5)
  else (instant? cs).orElse fun _ => number? cs

/-! ## Tables -/

/-- How a table came to be. -/
inductive Origin where
  /-- By the header of a table inside it. -/
  | parent
  | header
  /-- By an assignment to a key of several parts. -/
  | assignment
  deriving DecidableEq

/-- What a key of a table holds. -/
inductive Item where
  | value (v : Value)
  | table (origin : Origin) (items : List (String × Item))
  /-- The tables of an array, last first. -/
  | tables (all : List (List (String × Item)))

abbrev Table := List (String × Item)

/-- A table with the item of a key changed, or added at the end. -/
def alter (k : String) (f : Option Item → Option Item) : Table → Option Table
  | [] => (f none).map fun i => [(k, i)]
  | (l, i) :: rest =>
    if k = l then (f (some i)).map fun i => (l, i) :: rest
    else (alter k f rest).map ((l, i) :: ·)

/-- Changes the table at the end of a path that headers give. -/
def within (f : Table → Option Table) : List String → Table → Option Table
  | [], t => f t
  | k :: path, t => alter k (fun
    | none => (within f path []).map (.table .parent)
    | some (.table o items) => (within f path items).map (.table o)
    | some (.tables (last :: more)) => (within f path last).map fun t => .tables (t :: more)
    | some _ => none) t

/-- Assigns a value to a key of several parts. -/
def assign (v : Value) : String → List String → Table → Option Table
  | k, [], t => alter k (fun
    | none => some (.value v)
    | some _ => none) t
  | k, l :: more, t => alter k (fun
    | none => (assign v l more []).map (.table .assignment)
    | some (.table .header _) => none
    | some (.table o items) => (assign v l more items).map (.table o)
    | some _ => none) t

/-- Opens the table of a header. -/
def openTable (k : String) : Table → Option Table :=
  alter k fun
    | none => some (.table .header [])
    | some (.table .parent items) => some (.table .header items)
    | some _ => none

/-- Opens one more table of an array. -/
def openArray (k : String) : Table → Option Table :=
  alter k fun
    | none => some (.tables [[]])
    | some (.tables all) => some (.tables ([] :: all))
    | some _ => none

mutual

def Item.toValue : Item → Value
  | .value v => v
  | .table _ items => .obj (entriesOf items)
  | .tables all => .arr (tablesOf all).reverse

def entriesOf : List (String × Item) → List (String × Value)
  | [] => []
  | (k, i) :: rest => (k, i.toValue) :: entriesOf rest

def tablesOf : List (List (String × Item)) → List Value
  | [] => []
  | t :: ts => .obj (entriesOf t) :: tablesOf ts

end

/-! ## Values -/

mutual

/-- A value at the front of a text. -/
def value? (fuel : Nat) (cs : List Char) : Option (Value × List Char) :=
  match fuel with
  | 0 => none
  | fuel + 1 => match cs with
    | '[' :: r => (items? fuel r).map fun (vs, r) => (.arr vs, r)
    | '\x7b' :: r => match skipGap r with
      | '\x7d' :: r => some (.obj [], r)
      | r => (pairs? fuel [] r).map fun (t, r) => (.obj (entriesOf t), r)
    | '"' :: _ | '\'' :: _ => (string? cs).map fun (s, r) => (.str s, r)
    | cs => scalar? cs

/-- The values of an array after its bracket or a comma. -/
def items? (fuel : Nat) (cs : List Char) : Option (List Value × List Char) :=
  match fuel with
  | 0 => none
  | fuel + 1 => match skipLines (cs.length + 1) cs with
    | ']' :: r => some ([], r)
    | r => do
      let (v, r) ← value? fuel r
      match skipLines (r.length + 1) r with
      | ',' :: r => do
        let (vs, r) ← items? fuel r
        some (v :: vs, r)
      | ']' :: r => some ([v], r)
      | _ => none

/-- The assignments inside braces, all on one line. -/
def pairs? (fuel : Nat) (t : Table) (cs : List Char) : Option (Table × List Char) :=
  match fuel with
  | 0 => none
  | fuel + 1 => do
    let ((k, more), r) ← key? (cs.length + 1) cs
    let r ← mark? '=' (skipGap r)
    let (v, r) ← value? fuel (skipGap r)
    let t ← assign v k more t
    match skipGap r with
    | ',' :: r => pairs? fuel t r
    | '\x7d' :: r => some (t, r)
    | _ => none

end

/-! ## Documents -/

/-- A line of a document. -/
inductive Line where
  | header (path : List String) (last : String)
  | arrayHeader (path : List String) (last : String)
  | assignment (key : String) (more : List String) (v : Value)

/-- The parts of a key without the last, and the last. -/
def splitKey (k : String) : List String → List String × String
  | [] => ([], k)
  | l :: more => let (path, last) := splitKey l more; (k :: path, last)

/-- A line that is not blank. -/
def readLine (cs : List Char) : Option (Line × List Char) := do
  match cs with
  | '[' :: '[' :: r =>
    let ((k, more), r) ← key? (r.length + 1) r
    let r ← mark? ']' (← mark? ']' r)
    let (path, last) := splitKey k more
    some (.arrayHeader path last, r)
  | '[' :: r =>
    let ((k, more), r) ← key? (r.length + 1) r
    let r ← mark? ']' r
    let (path, last) := splitKey k more
    some (.header path last, r)
  | cs =>
    let ((k, more), r) ← key? (cs.length + 1) cs
    let r ← mark? '=' r
    let (v, r) ← value? (r.length + 2) (skipGap r)
    some (.assignment k more v, r)

/-- The lines of a text. -/
def readLines : Nat → List Char → Option (List Line)
  | 0, _ => none
  | n + 1, cs => match skipLines (cs.length + 1) cs with
    | [] => some []
    | r => do
      let (l, r) ← readLine r
      let more ← readLines n (← lineEnd? r)
      some (l :: more)

/-- The tables after one more line. Assignments go to the table of the last header, given by its
path. -/
def addLine (s : List String × Table) : Line → Option (List String × Table)
  | .header path last => (within (openTable last) path s.2).map (path ++ [last], ·)
  | .arrayHeader path last => (within (openArray last) path s.2).map (path ++ [last], ·)
  | .assignment k more v => (within (assign v k more) s.1 s.2).map (s.1, ·)

/-- The value of a text, if it is well formed. -/
def read? (s : String) : Option Value := do
  let cs := s.toList
  let cs := if cs.head? == some '\ufeff' then cs.drop 1 else cs
  let lines ← readLines (cs.length + 1) cs
  let (_, t) ← lines.foldlM addLine (([] : List String), ([] : Table))
  some (.obj (entriesOf t))

end GridOutage.Document.Toml
