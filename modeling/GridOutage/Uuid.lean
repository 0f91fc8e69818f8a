import GridOutage.Text.Digits

/-!
# UUIDs (uuid)

A UUID is a number of 128 bits. It is written as 32 lower-case hex digits in groups of
8, 4, 4, 4 and 12, and read from that form in either case, bare, in braces or after `urn:uuid:`,
and from 32 digits without hyphens.
-/
namespace GridOutage

/-- How many UUIDs there are. -/
abbrev Uuid.count : Nat := Nat.pow 2 128

structure Uuid where
  value : Fin Uuid.count
  deriving DecidableEq

namespace Uuid

instance : Inhabited Uuid := ⟨⟨0⟩⟩

/-- The UUID of a number, its low 128 bits. -/
def ofNat (n : Nat) : Uuid := ⟨⟨n % count, Nat.mod_lt _ (by decide)⟩⟩

def le (a b : Uuid) : Bool := a.value ≤ b.value

/-! ## Writing -/

/-- The `n` low hex digits of a number, leading zeros included. -/
def hexDigits (value : Nat) : Nat → List Char
  | 0 => []
  | n + 1 => hexDigits (value / 16) n ++ [Nat.digitChar (value % 16)]

/-- The hyphenated form. -/
def chars (u : Uuid) : List Char :=
  let ds := hexDigits u.value 32
  ds.take 8 ++ '-' :: (ds.drop 8).take 4 ++ '-' :: (ds.drop 12).take 4 ++
    '-' :: (ds.drop 16).take 4 ++ '-' :: ds.drop 20

def toText (u : Uuid) : String := String.ofList u.chars

/-! ## Reading -/

/-- The digits of the hyphenated form, if the hyphens stand where they should. -/
def unhyphenate? (cs : List Char) : Option (List Char) :=
  if cs.length = 36 ∧ cs[8]? = some '-' ∧ cs[13]? = some '-' ∧ cs[18]? = some '-' ∧ cs[23]? = some '-' then
    some (cs.take 8 ++ (cs.drop 9).take 4 ++ (cs.drop 14).take 4 ++ (cs.drop 19).take 4 ++ cs.drop 24)
  else none

/-- The scheme that may stand before a hyphenated UUID. -/
def urnScheme : List Char := ['u', 'r', 'n', ':', 'u', 'u', 'i', 'd', ':']

/-- The hex digits of an accepted form. -/
def digits? (cs : List Char) : Option (List Char) :=
  if cs.length = 32 then some cs
  else if cs.length = 38 ∧ cs.head? = some '\x7b' ∧ cs.getLast? = some '\x7d' then
    unhyphenate? (cs.drop 1).dropLast
  else if cs.length = 45 ∧ (cs.take 9).map Char.toLower = urnScheme then unhyphenate? (cs.drop 9)
  else unhyphenate? cs

def ofText? (s : String) : Option Uuid := do
  let ds ← digits? s.toList
  let n ← Text.natural? 16 ds
  some (ofNat n)

end Uuid

end GridOutage
