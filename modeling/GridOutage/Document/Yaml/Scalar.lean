import GridOutage.Text.Digits

/-!
# YAML scalars (serde_yaml)

The text of plain, quoted and block scalars, read off a cursor that knows its line and column.
Inside a scalar a single line break becomes a space, further breaks stay, and blanks around
breaks are dropped; block scalars keep or fold their breaks as their header says.
-/
namespace GridOutage.Document.Yaml

/-! ## Characters -/

def isBreak (c : Char) : Bool :=
  c == '\n' || c == '\r' || c == '\x85' || c == '\u2028' || c == '\u2029'

/-- A blank inside a line. -/
def isGap (c : Char) : Bool := c == ' ' || c == '\t'

/-- At the end of a line, before a blank or at the end of the text. -/
def endsWord : List Char → Bool
  | [] => true
  | c :: _ => isGap c || isBreak c

/-- A mark that starts or ends a document stands here. -/
def documentMark : List Char → Bool
  | '-' :: '-' :: '-' :: r | '.' :: '.' :: '.' :: r => endsWord r
  | _ => false

/-- The characters that may occur at all. -/
def isAllowed (c : Char) : Bool :=
  let n := c.toNat
  n == 0x09 || n == 0x0A || n == 0x0D || (0x20 ≤ n && n ≤ 0x7E) || n == 0x85 ||
  (0xA0 ≤ n && n ≤ 0xFFFD && n != 0xFEFF) || 0x10000 ≤ n

/-! ## Cursors -/

/-- A place in the text. -/
structure Cursor where
  rest : List Char
  index : Nat := 0
  line : Nat := 0
  column : Nat := 0

namespace Cursor

/-- Past `n` characters of a line. -/
def skip (n : Nat) (p : Cursor) : Cursor :=
  { p with rest := p.rest.drop n, index := p.index + n, column := p.column + n }

/-- Past a line break, and the character that it counts as. -/
def lineBreak (p : Cursor) : Char × Cursor :=
  let past (n : Nat) : Cursor :=
    { rest := p.rest.drop n, index := p.index + n, line := p.line + 1, column := 0 }
  match p.rest with
  | '\r' :: '\n' :: _ => ('\n', past 2)
  | c :: _ => (if c == '\u2028' || c == '\u2029' then c else '\n', past 1)
  | [] => ('\n', p)

/-- Past the characters of a line for which a test holds, and these characters. -/
def take (test : Char → Bool) (p : Cursor) : List Char × Cursor :=
  let cs := p.rest.takeWhile test
  (cs, p.skip cs.length)

/-- Past the rest of the line. -/
def toBreak (p : Cursor) : Cursor := (p.take (!isBreak ·)).2

end Cursor

/-! ## Blanks between words -/

/-- The blanks and breaks between two words of a scalar. -/
structure Space where
  /-- The blanks before the first break. -/
  blanks : List Char := []
  breaks : List Char := []
  /-- A tab stands where a line is indented less than the scalar. -/
  tabbed : Bool := false

namespace Space

/-- The text that stands for the space: its blanks, or its breaks folded. -/
def text (s : Space) : List Char :=
  match s.breaks with
  | [] => s.blanks
  | '\n' :: [] => [' ']
  | '\n' :: more => more
  | breaks => breaks

/-- The space from a cursor on. Lines after the first should be indented by `indent`. -/
def read (indent : Nat) : Nat → Space → Cursor → Space × Cursor
  | 0, s, p => (s, p)
  | n + 1, s, p => match p.rest with
    | c :: _ =>
      if isGap c then
        let s := if s.breaks.isEmpty then { s with blanks := s.blanks ++ [c] }
          else { s with tabbed := s.tabbed || (c == '\t' && p.column < indent) }
        read indent n s (p.skip 1)
      else if isBreak c then
        let (b, q) := p.lineBreak
        read indent n { s with breaks := s.breaks ++ [b] } q
      else (s, p)
    | [] => (s, p)

/-- The space that starts at a cursor. -/
def here (indent : Nat) (p : Cursor) : Space × Cursor := read indent p.rest.length {} p

end Space

/-! ## Plain scalars -/

def isFlowMark (c : Char) : Bool := c == ',' || c == '[' || c == ']' || c == '\x7b' || c == '\x7d'

/-- The characters of a word of a plain scalar. A colon ends it before a blank; inside brackets it
must not stand before a mark, and marks end the word too. -/
def plainWord (inFlow : Bool) : List Char → Option (List Char)
  | [] => some []
  | c :: r =>
    if isGap c || isBreak c then some []
    else if c == ':' && inFlow && r.head?.any (fun d => isFlowMark d || d == '?') then none
    else if (c == ':' && endsWord r) || (inFlow && isFlowMark c) then some []
    else (c :: ·) <$> plainWord inFlow r

/-- A plain scalar after the words `done`, with the space that follows them. The result says
whether the scalar ends at a line's start. -/
def plain (inFlow : Bool) (indent : Nat) :
    Nat → List Char → Space → Cursor → Option (List Char × Bool × Cursor)
  | 0, _, _, _ => none
  | n + 1, done, space, p =>
    let finish := some (done, !space.breaks.isEmpty, p)
    if p.column == 0 && documentMark p.rest then finish
    else if p.rest.head? == some '#' then finish
    else do
      let word ← plainWord inFlow p.rest
      if word.isEmpty then finish
      else
        let done := done ++ space.text ++ word
        let (space, q) := Space.here indent (p.skip word.length)
        if space.tabbed then none
        else if space.blanks.isEmpty && space.breaks.isEmpty then some (done, false, q)
        else if !inFlow && q.column < indent then some (done, !space.breaks.isEmpty, q)
        else plain inFlow indent n done space q

/-! ## Quoted scalars -/

/-- The character that a letter stands for after a backslash. -/
def escape? : Char → Option Char
  | '0' => some '\x00'
  | 'a' => some '\x07'
  | 'b' => some '\x08'
  | 't' | '\t' => some '\t'
  | 'n' => some '\n'
  | 'v' => some '\x0b'
  | 'f' => some '\x0c'
  | 'r' => some '\r'
  | 'e' => some '\x1b'
  | ' ' => some ' '
  | '"' => some '"'
  | '/' => some '/'
  | '\\' => some '\\'
  | 'N' => some '\x85'
  | '_' => some '\xa0'
  | 'L' => some '\u2028'
  | 'P' => some '\u2029'
  | _ => none

/-- How many hex digits follow a letter after a backslash. -/
def hexLength? : Char → Option Nat
  | 'x' => some 2
  | 'u' => some 4
  | 'U' => some 8
  | _ => none

/-- The character of a code, unless it is a surrogate or too large. -/
def scalarValue? (n : Nat) : Option Char := if n.isValidChar then some (Char.ofNat n) else none

/-- The text of an escape and how many characters it takes, the backslash included. -/
def escaped? : List Char → Option (Char × Nat)
  | '\\' :: c :: r => match hexLength? c with
    | some n =>
      if r.length < n then none
      else do
        let d ← scalarValue? (← Text.natural? 16 (r.take n))
        some (d, n + 2)
    | none => (escape? c).map (·, 2)
  | _ => none

/-- The rest of a quoted scalar after the text `done`. -/
def quoted (double : Bool) : Nat → List Char → Cursor → Option (List Char × Cursor)
  | 0, _, _ => none
  | n + 1, done, p =>
    let mark := if double then '"' else '\''
    if p.column == 0 && documentMark p.rest then none
    else match p.rest with
      | [] => none
      | c :: r =>
        if c == mark then
          if !double && r.head? == some '\'' then quoted double n (done ++ ['\'']) (p.skip 2)
          else some (done, p.skip 1)
        else if double && c == '\\' then
          if r.head?.any isBreak then
            -- the break and the blanks after it are dropped, further breaks stay
            let (_, q) := (p.skip 1).lineBreak
            let (space, q) := Space.read 0 q.rest.length { breaks := ['\n'] } q
            quoted double n (done ++ space.breaks.drop 1) q
          else match escaped? (c :: r) with
            | some (d, k) => quoted double n (done ++ [d]) (p.skip k)
            | none => none
        else if isGap c || isBreak c then
          let (space, q) := Space.here 0 p
          quoted double n (done ++ space.text) q
        else
          let (word, q) := p.take fun d => !(d == mark || d == '\\' || isGap d || isBreak d)
          if word.isEmpty then quoted double n (done ++ [c]) (p.skip 1)
          else quoted double n (done ++ word) q

/-! ## Block scalars -/

/-- What happens to the breaks at the end of a block scalar. -/
inductive Chomp where
  | strip | clip | keep
  deriving DecidableEq

/-- The header of a block scalar: what happens to its last breaks, and its indentation if given. -/
structure BlockHeader where
  chomp : Chomp := .clip
  indent : Option Nat := none

def chomp? : Char → Option Chomp
  | '+' => some .keep
  | '-' => some .strip
  | _ => none

/-- The header at the front of a text and how many characters it takes. -/
def blockHeader (cs : List Char) : Option (BlockHeader × Nat) :=
  let indentOf (c : Char) : Nat := c.toNat - '0'.toNat
  match cs with
  | [] => some ({}, 0)
  | c :: r => match chomp? c with
    | some chomp => match r.head? with
      | some d =>
        if d == '0' then none
        else if d.isDigit then some (⟨chomp, some (indentOf d)⟩, 2)
        else some (⟨chomp, none⟩, 1)
      | none => some (⟨chomp, none⟩, 1)
    | none =>
      if c == '0' then none
      else if c.isDigit then match r.head?.bind chomp? with
        | some chomp => some (⟨chomp, some (indentOf c)⟩, 2)
        | none => some (⟨.clip, some (indentOf c)⟩, 1)
      else some ({}, 0)

/-- The empty lines before a line of a block scalar: their breaks, the deepest column reached, and
the cursor at the first character that is not indentation. A tab in the indentation is a fault. -/
def emptyLines (indent : Option Nat) : Nat → List Char → Nat → Cursor → Option (List Char × Nat × Cursor)
  | 0, breaks, deepest, p => some (breaks, deepest, p)
  | n + 1, breaks, deepest, p =>
    let room (column : Nat) : Bool := indent.all (column < ·)
    match p.rest with
    | ' ' :: _ =>
      if room p.column then emptyLines indent n breaks deepest (p.skip 1)
      else some (breaks, max deepest p.column, p)
    | '\t' :: _ => if room p.column then none else some (breaks, max deepest p.column, p)
    | c :: _ =>
      if isBreak c then
        let (b, q) := p.lineBreak
        emptyLines indent n (breaks ++ [b]) (max deepest p.column) q
      else some (breaks, max deepest p.column, p)
    | [] => some (breaks, max deepest p.column, p)

/-- The lines of a block scalar. `last` is the break after the text `done`, `empty` are the breaks
of the empty lines after it, and `blank` says whether the last line starts with a blank. -/
def blockLines (literal : Bool) (chomp : Chomp) (indent : Nat) :
    Nat → List Char → List Char → List Char → Bool → Cursor → Option (List Char × Cursor)
  | 0, _, _, _, _, _ => none
  | n + 1, done, last, empty, blank, p =>
    if p.column == indent && !p.rest.isEmpty then do
      let startsBlank := p.rest.head?.any isGap
      let folded := !literal && last == ['\n'] && !blank && !startsBlank
      let between := (if folded then if empty.isEmpty then [' '] else [] else last) ++ empty
      let (line, q) := p.take (!isBreak ·)
      let (last, q) := if q.rest.isEmpty then ([], q) else let (b, q) := q.lineBreak; ([b], q)
      let (empty, _, q) ← emptyLines (some indent) (q.rest.length + 1) [] 0 q
      blockLines literal chomp indent n (done ++ between ++ line) last empty startsBlank q
    else
      let ending := match chomp with
        | .strip => []
        | .clip => last
        | .keep => last ++ empty
      some (done ++ ending, p)

/-- A block scalar after its mark. `parent` is the indentation of the block that it is in. -/
def block (literal : Bool) (parent : Int) (p : Cursor) : Option (List Char × Cursor) := do
  let (header, k) ← blockHeader p.rest
  let (_, p) := (p.skip k).take isGap
  let p := if p.rest.head? == some '#' then p.toBreak else p
  if p.rest.head?.any (!isBreak ·) then none
  else
    let p := if p.rest.isEmpty then p else p.lineBreak.2
    let given := header.indent.map fun n => if 0 ≤ parent then parent.toNat + n else n
    let (empty, deepest, p) ← emptyLines given (p.rest.length + 1) [] 0 p
    let indent := given.getD (max (max deepest (parent + 1).toNat) 1)
    blockLines literal header.chomp indent (p.rest.length + 1) [] [] empty false p

end GridOutage.Document.Yaml
