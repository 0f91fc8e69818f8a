import GridOutage.Document.Yaml.Scalar

/-!
# YAML tokens (serde_yaml)

The text of a document as tokens, in which indentation has become the start and the end of block
collections. A scalar or a bracket that turns out to stand before a colon was a key: until then
it is a *candidate*, and its key mark is put before it afterwards.

A text that is not well formed gives the tokens up to its first fault and then `broken`. Tokens
from the earliest candidate on are not among them, since it is not settled what they are.
-/
namespace GridOutage.Document.Yaml

inductive Token where
  | documentStart | documentEnd
  | blockSequence | blockMapping | blockEnd
  | flowSequence | flowSequenceEnd
  | flowMapping | flowMappingEnd
  | blockEntry | flowEntry
  | key | value
  | anchor (name : String)
  | alias (name : String)
  | tag
  | directive
  | scalar (text : String) (plain : Bool)
  | broken
  deriving DecidableEq, Repr

/-- A token that is a key if a colon follows on its line. -/
structure Candidate where
  /-- The number of tokens before it. -/
  place : Nat
  /-- The block cannot go on unless it is a key. -/
  required : Bool
  index : Nat
  line : Nat
  column : Nat

/-- The state between two tokens. -/
structure Scan where
  cursor : Cursor
  tokens : Array Token := #[]
  /-- The column of the innermost block, and those of the blocks around it. -/
  indent : Int := -1
  outer : List Int := []
  /-- A candidate for each bracket that is open, innermost first, and one for the block. -/
  candidates : List (Option Candidate) := [none]
  /-- A key may start here. -/
  keyAllowed : Bool := true

namespace Scan

def rest (s : Scan) : List Char := s.cursor.rest

def column (s : Scan) : Nat := s.cursor.column

def inFlow (s : Scan) : Bool := 1 < s.candidates.length

def emit (s : Scan) (t : Token) : Scan := { s with tokens := s.tokens.push t }

/-- Past `n` characters, which are a token. -/
def mark (s : Scan) (n : Nat) (t : Token) : Scan := { s with cursor := s.cursor.skip n }.emit t

def allowKey (s : Scan) (b : Bool) : Scan := { s with keyAllowed := b }

/-! ## Blanks and comments -/

/-- Past blanks, comments and breaks. A tab is no blank where a block key may start. -/
def toToken : Nat → Scan → Scan
  | 0, s => s
  | n + 1, s => match s.rest with
    | ' ' :: _ => toToken n { s with cursor := s.cursor.skip 1 }
    | '\t' :: _ =>
      if s.inFlow || !s.keyAllowed then toToken n { s with cursor := s.cursor.skip 1 } else s
    | '#' :: _ => toToken n { s with cursor := s.cursor.toBreak }
    | c :: _ =>
      if isBreak c then
        toToken n { s with cursor := s.cursor.lineBreak.2, keyAllowed := s.keyAllowed || !s.inFlow }
      else s
    | [] => s

/-! ## Indentation -/

/-- Ends the blocks that are indented further than a column. -/
def unindent (s : Scan) (column : Int) : Scan :=
  if s.inFlow then s else close s.outer s
where
  close : List Int → Scan → Scan
    | [], s => s
    | i :: outer, s =>
      if column < s.indent then close outer { s.emit .blockEnd with indent := i, outer := outer } else s

/-- Starts a block if the column is beyond the innermost one; its token goes to a place. -/
def indentTo (s : Scan) (column : Nat) (place : Nat) (t : Token) : Scan :=
  if s.inFlow || (column : Int) ≤ s.indent then s
  else { s with indent := column, outer := s.indent :: s.outer,
                tokens := s.tokens.insertIdxIfInBounds place t }

/-! ## Keys -/

/-- A candidate is only one on its own line and for 1024 characters. -/
def fresh (s : Scan) (c : Candidate) : Bool :=
  c.line == s.cursor.line && s.cursor.index ≤ c.index + 1024

/-- Drops candidates that are no longer fresh; one that was required is a fault. -/
def settle (s : Scan) : Option Scan :=
  if s.candidates.any (·.any fun c => c.required && !s.fresh c) then none
  else some { s with candidates := s.candidates.map (·.filter s.fresh) }

def candidate? (s : Scan) : Option Candidate := s.candidates.headD none

def setCandidate (s : Scan) (c : Option Candidate) : Scan :=
  { s with candidates := c :: s.candidates.drop 1 }

/-- Drops the candidate of the innermost level; one that was required is a fault. -/
def dropCandidate (s : Scan) : Option Scan :=
  if s.candidate?.any (·.required) then none else some (s.setCandidate none)

/-- Makes the token that comes next a candidate, where a key may start. -/
def nominate (s : Scan) : Option Scan :=
  if !s.keyAllowed then some s
  else do
    let t ← s.dropCandidate
    some (t.setCandidate (some { place := s.tokens.size, required := !s.inFlow && s.indent == s.column,
                                 index := s.cursor.index, line := s.cursor.line, column := s.column }))

/-! ## Tokens -/

/-- A mark between documents, or a directive. It ends all blocks. -/
def boundary (s : Scan) (t : Token) (past : Cursor) : Option Scan := do
  let s ← (s.unindent (-1)).dropCandidate
  some ({ s with cursor := past }.emit t |>.allowKey false)

/-- A directive, of which only that of the version is known. -/
def directive (s : Scan) : Option Scan :=
  let (line, past) := s.cursor.take (!isBreak ·)
  let words := (line.takeWhile (· != '#')).splitBy fun a b => isGap a == isGap b
  match words.filter (!·.all isGap) with
  | [['%', 'Y', 'A', 'M', 'L'], ['1', '.', minor]] =>
    if minor == '1' || minor == '2' then s.boundary .directive past else none
  | _ => none

def openFlow (s : Scan) (t : Token) : Option Scan := do
  let s ← s.nominate
  some ({ s with candidates := none :: s.candidates }.mark 1 t |>.allowKey true)

def closeFlow (s : Scan) (t : Token) : Option Scan := do
  let s ← s.dropCandidate
  let candidates := if s.inFlow then s.candidates.drop 1 else s.candidates
  some ({ s with candidates := candidates }.mark 1 t |>.allowKey false)

def flowEntry (s : Scan) : Option Scan := do
  let s ← s.dropCandidate
  some (s.mark 1 .flowEntry |>.allowKey true)

def blockEntry (s : Scan) : Option Scan := do
  if !s.inFlow && !s.keyAllowed then none
  else
    let s ← (s.indentTo s.column s.tokens.size .blockSequence).dropCandidate
    some (s.mark 1 .blockEntry |>.allowKey true)

def explicitKey (s : Scan) : Option Scan := do
  if !s.inFlow && !s.keyAllowed then none
  else
    let s ← (s.indentTo s.column s.tokens.size .blockMapping).dropCandidate
    some (s.mark 1 .key |>.allowKey !s.inFlow)

/-- A colon. The candidate before it becomes a key; without one the key is empty. -/
def colon (s : Scan) : Option Scan :=
  match s.candidate? with
  | some c =>
    let s := { s with tokens := s.tokens.insertIdxIfInBounds c.place .key }
    let s := (s.indentTo c.column c.place .blockMapping).setCandidate none
    some (s.mark 1 .value |>.allowKey false)
  | none =>
    if !s.inFlow && !s.keyAllowed then none
    else
      let s := s.indentTo s.column s.tokens.size .blockMapping
      some (s.mark 1 .value |>.allowKey !s.inFlow)

def isNameChar (c : Char) : Bool := c.isAlphanum || c == '_' || c == '-'

/-- The characters that may follow the name of an anchor. -/
def endsName : List Char → Bool
  | [] => true
  | c :: r => endsWord (c :: r) || c == '?' || c == ':' || c == ',' || c == ']' || c == '\x7d' ||
    c == '%' || c == '@' || c == '\x60'

/-- An anchor or an alias. -/
def reference (s : Scan) (t : String → Token) : Option Scan := do
  let s ← s.nominate
  let (name, past) := (s.cursor.skip 1).take isNameChar
  if name.isEmpty || !endsName past.rest then none
  else some ({ s with cursor := past }.emit (t (String.ofList name)) |>.allowKey false)

/-- A tag, which is skipped up to the next blank. -/
def tag (s : Scan) : Option Scan := do
  let s ← s.nominate
  let (_, past) := s.cursor.take fun c => !(isGap c || isBreak c || (s.inFlow && isFlowMark c))
  some ({ s with cursor := past }.emit .tag |>.allowKey false)

def blockScalar (s : Scan) (literal : Bool) : Option Scan := do
  let s ← s.dropCandidate
  let (text, past) ← block literal s.indent (s.cursor.skip 1)
  some ({ s with cursor := past }.emit (.scalar (String.ofList text) false) |>.allowKey true)

def quotedScalar (s : Scan) (double : Bool) : Option Scan := do
  let s ← s.nominate
  let p := s.cursor.skip 1
  let (text, past) ← quoted double (p.rest.length + 1) [] p
  some ({ s with cursor := past }.emit (.scalar (String.ofList text) false) |>.allowKey false)

def plainScalar (s : Scan) : Option Scan := do
  let s ← s.nominate
  let (text, atLine, past) ←
    plain s.inFlow (s.indent + 1).toNat (s.rest.length + 1) [] {} s.cursor
  some ({ s with cursor := past }.emit (.scalar (String.ofList text) true) |>.allowKey atLine)

/-- The characters that start no plain scalar. -/
def isIndicator (c : Char) : Bool :=
  ['-', '?', ':', ',', '[', ']', '\x7b', '\x7d', '#', '&', '*', '!', '|', '>', '\'', '"', '%', '@',
    '\x60'].contains c

/-- A plain scalar can start here. -/
def startsPlain (s : Scan) : Bool :=
  match s.rest with
  | c :: r =>
    !(isGap c || isBreak c || isIndicator c) || (c == '-' && !r.head?.any isGap) ||
      (!s.inFlow && (c == '?' || c == ':') && !endsWord r)
  | [] => false

/-- The next token at the cursor, which is past all blanks and not at the end. -/
def token (s : Scan) : Option Scan :=
  let c := s.rest.headD ' '
  let r := s.rest.tail
  if s.column == 0 && c == '%' then s.directive
  else if s.column == 0 && documentMark s.rest then
    s.boundary (if c == '-' then .documentStart else .documentEnd) (s.cursor.skip 3)
  else if c == '[' then s.openFlow .flowSequence
  else if c == '\x7b' then s.openFlow .flowMapping
  else if c == ']' then s.closeFlow .flowSequenceEnd
  else if c == '\x7d' then s.closeFlow .flowMappingEnd
  else if c == ',' then s.flowEntry
  else if c == '-' && endsWord r then s.blockEntry
  else if c == '?' && (s.inFlow || endsWord r) then s.explicitKey
  else if c == ':' && (s.inFlow || endsWord r) then s.colon
  else if c == '*' then s.reference .alias
  else if c == '&' then s.reference .anchor
  else if c == '!' then s.tag
  else if c == '|' && !s.inFlow then s.blockScalar true
  else if c == '>' && !s.inFlow then s.blockScalar false
  else if c == '\'' then s.quotedScalar false
  else if c == '"' then s.quotedScalar true
  else if s.startsPlain then s.plainScalar
  else none

/-- The end of the text, which ends all blocks. -/
def finish (s : Scan) : Option Scan := (s.unindent (-1)).dropCandidate

/-- The tokens before the earliest candidate, and the fault. -/
def breakOff (s : Scan) : List Token :=
  let firm := s.candidates.foldl (fun n c => match c.filter s.fresh with
    | some c => min n c.place
    | none => n) s.tokens.size
  s.tokens.toList.take firm ++ [.broken]

/-- All tokens. The fuel is more than the length of the text. -/
def run : Nat → Scan → List Token
  | 0, s => s.breakOff
  | n + 1, s => match s.settle with
    | none => s.breakOff
    | some s =>
      let t := toToken (s.rest.length + 1) s
      match t.settle with
      | none => s.breakOff
      | some t =>
        if t.rest.isEmpty then match t.finish with
          | some t => t.tokens.toList
          | none => s.breakOff
        else match (t.unindent t.column).token with
          | some t => run n t
          | none => s.breakOff

end Scan

/-- The tokens of a text. A character that may not occur breaks it from the start. -/
def tokens (text : List Char) : List Token :=
  let text := if text.head? == some '\ufeff' then text.drop 1 else text
  if text.all isAllowed then Scan.run (text.length + 2) { cursor := { rest := text } } else [.broken]

end GridOutage.Document.Yaml
