import GridOutage.Document.Fault
import GridOutage.Document.Value
import GridOutage.Text.Digits

/-!
# Decoding document values (serde)

A `Decoder` makes a typed value of a document value or says what is wrong with it. Records are
decoded by a `Row`, the list of their fields together with the function that builds the record:
entries are met in the order of the text and the first fault counts, then missing fields are
reported in the order of the row.

Origins of values differ in two points: whether a list of fields can stand for a record, and how a
name can be written as an object.
-/
namespace GridOutage.Document

/-- Where a value comes from. -/
inductive Origin where
  /-- A value that was read completely before. -/
  | value
  /-- A part of a document that was read before its type was known. -/
  | buffered
  | json
  | yaml
  | toml
  deriving DecidableEq, Repr

abbrev Result (α : Type) := Except Fault α

abbrev Decoder (α : Type) := Value → Result α

/-- The fault of a value that is not of the type asked for. -/
def mismatch : Value → Fault
  | .unusable | .broken => .malformed
  | _ => .invalidType

/-! ## Untyped scalars -/

namespace Plain

/-- The spellings of null. -/
def isNull (s : String) : Bool := s.isEmpty || s == "~" || s == "null" || s == "Null" || s == "NULL"

def boolean? (s : String) : Option Bool :=
  if s == "true" || s == "True" || s == "TRUE" then some true
  else if s == "false" || s == "False" || s == "FALSE" then some false
  else none

/-- Digits after a leading zero: no number, so that codes keep their zeros. -/
def zeroLed (cs : List Char) : Bool :=
  match cs with
  | '+' :: r | '-' :: r => zeroLed.body r
  | r => zeroLed.body r
where
  body : List Char → Bool
    | '0' :: d :: r => (d :: r).all Char.isDigit
    | _ => false

/-- A whole number without its sign, decimal or after a base mark. -/
def natural? (cs : List Char) : Option Nat :=
  match cs with
  | '0' :: 'x' :: r => Text.natural? 16 r
  | '0' :: 'o' :: r => Text.natural? 8 r
  | '0' :: 'b' :: r => Text.natural? 2 r
  | r => Text.natural? 10 r

def whole? (s : String) : Option Int :=
  if zeroLed s.toList then none
  else match s.toList with
    | '+' :: r => (natural? r).map fun n => (n : Int)
    | '-' :: r => (natural? r).map fun n => -(n : Int)
    | r => (natural? r).map fun n => (n : Int)

/-- The part of a decimal from its exponent mark on, as an exponent. -/
def exponent? : List Char → Option Int
  | [] => some 0
  | e :: r =>
    if e = 'e' ∨ e = 'E' then
      match r with
      | '-' :: ds => (Text.natural? 10 ds).map fun n => -(n : Int)
      | '+' :: ds => (Text.natural? 10 ds).map fun n => (n : Int)
      | ds => (Text.natural? 10 ds).map fun n => (n : Int)
    else none

/-- A decimal without its sign: digits, a point anywhere among them, an exponent. -/
def decimal? (negative : Bool) (cs : List Char) : Option Binary64 := do
  let whole := cs.takeWhile Char.isDigit
  let (fraction, rest) := match cs.dropWhile Char.isDigit with
    | '.' :: r => (r.takeWhile Char.isDigit, r.dropWhile Char.isDigit)
    | r => ([], r)
  let coefficient ← Text.natural? 10 (whole ++ fraction)
  let exponent ← exponent? rest
  some (Binary64.ofDecimal negative coefficient (exponent - fraction.length))

/-- The number of a scalar, if it is one: a decimal within range, an infinity, or not a number. -/
def number? (s : String) : Option Binary64 :=
  if s == ".inf" || s == ".Inf" || s == ".INF" || s == "+.inf" || s == "+.Inf" || s == "+.INF" then
    some (.infinity false)
  else if s == "-.inf" || s == "-.Inf" || s == "-.INF" then some (.infinity true)
  else if s == ".nan" || s == ".NaN" || s == ".NAN" then some .nan
  else
    let x := match s.toList with
      | '+' :: r => decimal? false r
      | '-' :: r => decimal? true r
      | r => decimal? false r
    x.filter Binary64.isFinite

end Plain

namespace Value

mutual

/-- The value with every untyped scalar given the first type it has the form of. -/
def settled : Value → Value
  | .plain s =>
    if Plain.isNull s then .null
    else match Plain.boolean? s with
      | some b => .bool b
      | none => match Plain.whole? s with
        | some n => .int n
        | none =>
          if Plain.zeroLed s.toList then .str s
          else match Plain.number? s with
            | some x => .real x
            | none => .str s
  | .arr items => .arr (settledItems items)
  | .obj entries => .obj (settledEntries entries)
  | v => v

def settledItems : List Value → List Value
  | [] => []
  | v :: vs => v.settled :: settledItems vs

def settledEntries : List (String × Value) → List (String × Value)
  | [] => []
  | (k, v) :: es => (k, v.settled) :: settledEntries es

end

mutual

/-- No part of the value is unreadable. -/
def readable : Value → Bool
  | .broken | .unusable => false
  | .arr items => readableItems items
  | .obj entries => readableEntries entries
  | _ => true

def readableItems : List Value → Bool
  | [] => true
  | v :: vs => v.readable && readableItems vs

def readableEntries : List (String × Value) → Bool
  | [] => true
  | (_, v) :: es => v.readable && readableEntries es

end

end Value

/-! ## Scalars and lists -/

def text : Decoder String
  | .str s | .plain s => .ok s
  | v => .error (mismatch v)

def number : Decoder Binary64
  | .int n => .ok (Binary64.ofInt n)
  | .real x => .ok x
  | .plain s => match Plain.number? s with
    | some x => .ok x
    | none => .error .invalidType
  | v => .error (mismatch v)

/-- A value that null stands for the lack of. -/
def nullable {α : Type} (d : Decoder α) : Decoder (Option α)
  | .null => .ok none
  | .plain s => if Plain.isNull s then .ok none else some <$> d (.plain s)
  | v => some <$> d v

def list {α : Type} (d : Decoder α) : Decoder (List α)
  | .arr items => items.mapM d
  | .plain "" => .ok []
  | v => .error (mismatch v)

/-- A text that a reader accepts; what it refuses is malformed. -/
def textAs {α : Type} (read : String → Option α) : Decoder α := fun v => do
  match read (← text v) with
  | some a => .ok a
  | none => .error .malformed

/-! ## Names -/

/-- The meaning of a name among those that may stand here. -/
def meaning {α : Type} (names : List (String × α)) (s : String) : Result α :=
  match names.lookup s with
  | some a => .ok a
  | none => .error (.unknownVariant s)

/-- A name, written as a text or as an object that maps it to null. -/
def variant {α : Type} (o : Origin) (names : List (String × α)) : Decoder α
  | .str s | .plain s => meaning names s
  | .obj entries => match o, entries with
    | .yaml, _ => .error .invalidType
    | .value, [(k, v)] => do
      let a ← meaning names k
      match v with
      | .null => .ok a
      | _ => .error (mismatch v)
    | .buffered, [(k, v)] => do
      let a ← meaning names k
      match v with
      | .null | .obj [] => .ok a
      | _ => .error (mismatch v)
    | .value, _ | .buffered, _ | .toml, _ => .error .invalidValue
    | .json, [] => .error .malformed
    | .json, (k, v) :: more => do
      let a ← meaning names k
      match v with
      | .null => if more.isEmpty then .ok a else .error .malformed
      | _ => .error (mismatch v)
  | v => .error (mismatch v)

/-- The names of a list of values, each paired with what it means. -/
def named {α : Type} (name : α → String) (all : List α) : List (String × α) :=
  all.map fun a => (name a, a)

/-! ## Records -/

/-- A field of a record: what its value must pass. -/
structure Field where
  name : String
  required : Bool
  check : Value → Result Unit

/-- The fields of a record in order, and how the record is built of their values. -/
structure Row (α : Type) where
  fields : List Field
  build : List (String × Value) → Result α

namespace Row

/-- A record without fields. -/
def pure {α : Type} (a : α) : Row α := ⟨[], fun _ => .ok a⟩

/-- The fields of one row after those of another. -/
def seq {α β : Type} (f : Row (α → β)) (r : Row α) : Row β :=
  ⟨f.fields ++ r.fields, fun es => do return (← f.build es) (← r.build es)⟩

instance : Applicative Row where
  pure := Row.pure
  seq f r := Row.seq f (r ())

/-- One field, with the value it has when it is absent. -/
def field {α : Type} (name : String) (d : Decoder α) (absent : Option α) : Row α where
  fields := [⟨name, absent.isNone, fun v => do let _ ← d v⟩]
  build es := match es.lookup name, absent with
    | some v, _ => d v
    | none, some a => .ok a
    | none, none => .error (.missingField name)

/-- A field that must be there. -/
def required {α : Type} (name : String) (d : Decoder α) : Row α := field name d none

/-- A field that may be null or absent. -/
def optional {α : Type} (name : String) (d : Decoder α) : Row (Option α) :=
  field name (nullable d) (some none)

/-- A field that may be absent, but not null. -/
def defaulted {α : Type} (name : String) (d : Decoder α) (absent : α) : Row α :=
  field name d (some absent)

end Row

/-- The first fault of the entries in their order: a repeated field, or a field's own fault.
Entries of other names need only be `passable`. -/
def scan (passable : Value → Bool) (fields : List Field) :
    List String → List (String × Value) → Result Unit
  | _, [] => .ok ()
  | seen, (k, v) :: es => match fields.find? (·.name == k) with
    | some f =>
      if seen.contains k then .error (.duplicateField k)
      else do f.check v; scan passable fields (k :: seen) es
    | none => if passable v then scan passable fields seen es else .error .malformed

/-- The first required field without an entry. -/
def demand (entries : List (String × Value)) : List Field → Result Unit
  | [] => .ok ()
  | f :: fs =>
    if f.required && (entries.lookup f.name).isNone then .error (.missingField f.name)
    else demand entries fs

/-- The entries of a list that gives the fields of a record in order. -/
def positional (o : Origin) : List Field → List Value → Result (List (String × Value))
  | [], [] => .ok []
  | [], _ :: _ => match o with
    | .toml => .ok []
    | .json => .error .malformed
    | _ => .error .invalidLength
  | f :: fs, [] => if f.required then .error .invalidLength else positional o fs []
  | f :: fs, v :: vs => do
    f.check v
    return (f.name, v) :: (← positional o fs vs)

/-- A record from the entries of an object. -/
def Row.ofEntries {α : Type} (r : Row α) (entries : List (String × Value)) : Result α := do
  scan (!·.breaks) r.fields [] entries
  demand entries r.fields
  r.build entries

/-- A record. In YAML an empty value is a record without entries, and a list is none. -/
def Row.decode {α : Type} (r : Row α) (o : Origin) : Decoder α
  | .obj entries => r.ofEntries entries
  | .plain "" => r.ofEntries []
  | .arr items =>
    if o = .yaml then .error .invalidType
    else do r.build (← positional o r.fields items)
  | v => .error (mismatch v)

/-! ## Tagged records -/

/-- The tag of an object and its other entries, these with the types they have the form of. -/
def splitTag {α : Type} (tag : String) (d : Decoder α) :
    Option α → List (String × Value) → Result (α × List (String × Value))
  | none, [] => .error (.missingField tag)
  | some a, [] => .ok (a, [])
  | found, (k, v) :: es =>
    if k = tag then
      match found with
      | some _ => .error (.duplicateField tag)
      | none => do splitTag tag d (some (← d v)) es
    else if v.readable then do
      let (a, rest) ← splitTag tag d found es
      return (a, (k, v.settled) :: rest)
    else .error .malformed

/-- The tag and the other entries of a tagged record. A list can only hold the tag, for the rest of
the record is known by names. -/
def splitRecord {α : Type} (tag : String) (d : Decoder α) : Value → Result (α × List (String × Value))
  | .obj entries => splitTag tag d none entries
  | .arr [] => .error (.missingField tag)
  | .arr (v :: _) => do
    let _ ← d v
    .error .invalidType
  | v => .error (mismatch v)

/-- A tag written as a name. -/
def tagName {α : Type} (names : List (String × α)) : Decoder α
  | .str s | .plain s => meaning names s
  | v => .error (mismatch v)

/-- A tag that may also be given by its place among the names. -/
def tagNameOrPlace {α : Type} (names : List (String × α)) : Decoder α
  | .int n => match n with
    | .ofNat i => match names[i]? with
      | some (_, a) => .ok a
      | none => .error .invalidValue
    | .negSucc _ => .error .invalidType
  | v => tagName names v

end GridOutage.Document
