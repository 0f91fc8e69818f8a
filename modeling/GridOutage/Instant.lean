import GridOutage.Text.Blank

/-!
# Instants (chrono)

A point in UTC time, as seconds since 1970-01-01 and nanoseconds. A leap second is the second
before it with at least `10 ^ 9` nanoseconds. Instants are read from RFC 3339 text, with blanks
allowed between its parts, and written in UTC.

The calendar counts days in eras of 400 years, each year starting on the first of March.
-/
namespace GridOutage

structure Instant where
  seconds : Int
  nanos : Nat
  deriving DecidableEq, Inhabited

namespace Instant

/-! ## The calendar -/

/-- Days from 1970-01-01 to a day of the proleptic Gregorian calendar. -/
def daysOfDate (year : Int) (month day : Nat) : Int :=
  let y := if month ≤ 2 then year - 1 else year
  let era := y.fdiv 400
  let yearOfEra := y - era * 400
  let shifted := if month ≤ 2 then month + 9 else month - 3
  let dayOfYear : Int := (153 * shifted + 2) / 5 + day - 1
  let dayOfEra := yearOfEra * 365 + yearOfEra / 4 - yearOfEra / 100 + dayOfYear
  era * 146097 + dayOfEra - 719468

/-- Year, month and day of a count of days from 1970-01-01. -/
def dateOfDays (days : Int) : Int × Nat × Nat :=
  let z := days + 719468
  let era := z.fdiv 146097
  let dayOfEra := (z - era * 146097).toNat
  let yearOfEra := (dayOfEra - dayOfEra / 1460 + dayOfEra / 36524 - dayOfEra / 146096) / 365
  let dayOfYear := dayOfEra - (365 * yearOfEra + yearOfEra / 4 - yearOfEra / 100)
  let shifted := (5 * dayOfYear + 2) / 153
  let day := dayOfYear - (153 * shifted + 2) / 5 + 1
  let month := if shifted < 10 then shifted + 3 else shifted - 9
  let year : Int := yearOfEra + era * 400
  (if month ≤ 2 then year + 1 else year, month, day)

def isLeapYear (year : Int) : Bool :=
  year % 4 == 0 && (year % 100 != 0 || year % 400 == 0)

def daysInMonth (year : Int) (month : Nat) : Nat :=
  if month == 2 then if isLeapYear year then 29 else 28
  else if month == 4 || month == 6 || month == 9 || month == 11 then 30
  else 31

/-! ## Writing -/

/-- A number with at least `width` digits. -/
def padded (width n : Nat) : List Char :=
  let ds := Nat.toDigits 10 n
  List.replicate (width - ds.length) '0' ++ ds

/-- A year: four digits from 0 to 9999, else a sign and at least four. -/
def yearText (year : Int) : List Char :=
  if year < 0 then '-' :: padded 4 year.natAbs
  else if 9999 < year then '+' :: padded 4 year.natAbs
  else padded 4 year.natAbs

/-- A fraction of a second with the fewest of 0, 3, 6 and 9 digits that hold it. -/
def fractionText (nanos : Nat) : List Char :=
  if nanos = 0 then []
  else if nanos % 1000000 = 0 then '.' :: padded 3 (nanos / 1000000)
  else if nanos % 1000 = 0 then '.' :: padded 6 (nanos / 1000)
  else '.' :: padded 9 nanos

/-- Date and time without the zone. -/
def localChars (t : Instant) : List Char :=
  let (year, month, day) := dateOfDays (t.seconds.fdiv 86400)
  let clock := (t.seconds.fmod 86400).toNat
  let leap := t.nanos / 1000000000
  yearText year ++ '-' :: padded 2 month ++ '-' :: padded 2 day ++
    'T' :: padded 2 (clock / 3600) ++ ':' :: padded 2 (clock / 60 % 60) ++
    ':' :: padded 2 (clock % 60 + leap) ++ fractionText (t.nanos % 1000000000)

/-- The form of stored documents, with `Z` for UTC. -/
def toText (t : Instant) : String := String.ofList (t.localChars ++ ['Z'])

/-- The form of listings, with a numeric offset. -/
def toOffsetText (t : Instant) : String := String.ofList (t.localChars ++ ['+', '0', '0', ':', '0', '0'])

/-! ## Reading -/

/-- The first digits of a text, at least one and at most `limit`, as a number. -/
def digits? (limit : Nat) (cs : List Char) : Option (Nat × List Char) :=
  let ds := (cs.take limit).takeWhile Char.isDigit
  if ds.isEmpty then none
  else some (ds.foldl (fun n c => 10 * n + (c.toNat - '0'.toNat)) 0, cs.drop ds.length)

/-- A number of at most two digits within bounds, blanks before it skipped. -/
def field? (low high : Nat) (cs : List Char) : Option (Nat × List Char) := do
  let (n, rest) ← digits? 2 (cs.dropWhile Text.isBlank)
  if low ≤ n ∧ n ≤ high then some (n, rest) else none

/-- A character, blanks before it skipped. -/
def mark? (c : Char) (cs : List Char) : Option (List Char) :=
  match cs.dropWhile Text.isBlank with
  | d :: rest => if c = d then some rest else none
  | [] => none

/-- A year: up to four digits, or a sign and any number of them. -/
def year? (cs : List Char) : Option (Int × List Char) :=
  match cs.dropWhile Text.isBlank with
  | '-' :: rest => (digits? rest.length rest).map fun (n, r) => (-(n : Int), r)
  | '+' :: rest => (digits? rest.length rest).map fun (n, r) => ((n : Int), r)
  | rest => (digits? 4 rest).map fun (n, r) => ((n : Int), r)

/-- The nanoseconds of a fraction; digits after the ninth are dropped. -/
def fraction? (cs : List Char) : Option (Nat × List Char) :=
  match cs with
  | '.' :: rest =>
    let ds := rest.takeWhile Char.isDigit
    if ds.isEmpty then none
    else
      let nine := (ds ++ List.replicate 9 '0').take 9
      some (nine.foldl (fun n c => 10 * n + (c.toNat - '0'.toNat)) 0, rest.dropWhile Char.isDigit)
  | _ => some (0, cs)

/-- Two digits, the first at most `tens`. -/
def pair? (tens : Nat) (cs : List Char) : Option (Nat × List Char) :=
  match cs with
  | a :: b :: rest =>
    if a.isDigit ∧ b.isDigit ∧ a.toNat - '0'.toNat ≤ tens then
      some (10 * (a.toNat - '0'.toNat) + (b.toNat - '0'.toNat), rest)
    else none
  | _ => none

/-- The seconds by which a zone is ahead of UTC. -/
def zone? (cs : List Char) : Option (Int × List Char) :=
  match cs with
  | 'Z' :: rest | 'z' :: rest => some (0, rest)
  | a :: b :: c :: rest =>
    if [a, b, c].map Char.toUpper = ['U', 'T', 'C'] then some (0, rest)
    else if a = '+' ∨ a = '-' ∨ a = '−' then do
      let (hours, afterHours) ← pair? 9 (b :: c :: rest)
      let (minutes, last) ← pair? 5 (afterHours.dropWhile fun c => c == ':' || Text.isBlank c)
      let ahead : Int := hours * 3600 + minutes * 60
      if ahead < 86400 then some (if a = '+' then ahead else -ahead, last) else none
    else none
  | _ => none

/-- The years that a date may have, in its zone and in UTC. -/
def yearInRange (year : Int) : Bool := -262143 ≤ year && year ≤ 262142

def ofChars? (cs : List Char) : Option Instant := do
  let (year, cs) ← year? cs
  let (month, cs) ← field? 1 12 (← mark? '-' cs)
  let (day, cs) ← field? 1 31 (← mark? '-' cs)
  let cs ← match cs with
    | c :: rest => if c = 'T' ∨ c = 't' ∨ c = ' ' then some rest else none
    | [] => none
  let (hour, cs) ← field? 0 23 cs
  let (minute, cs) ← field? 0 59 (← mark? ':' cs)
  let (second, cs) ← field? 0 60 (← mark? ':' cs)
  let (nanos, cs) ← fraction? cs
  let (ahead, cs) ← zone? (cs.dropWhile Text.isBlank)
  if ¬ cs.all Text.isBlank ∨ ¬ yearInRange year ∨ daysInMonth year month < day then none
  else
    let leap := if second = 60 then 1 else 0
    let t : Instant :=
      ⟨daysOfDate year month day * 86400 + hour * 3600 + minute * 60 + (second - leap : Nat) - ahead,
        nanos + leap * 1000000000⟩
    if yearInRange (dateOfDays (t.seconds.fdiv 86400)).1 then some t else none

/-- The instant of an RFC 3339 text with seconds and a zone. -/
def ofText? (s : String) : Option Instant := ofChars? s.toList

end Instant

end GridOutage
