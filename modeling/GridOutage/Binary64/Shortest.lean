import GridOutage.Binary64.Nearest

/-!
# The shortest decimal of a binary64 number

`shortest` gives the decimal `c · 10 ^ g` with the fewest digits that reads back to a rank, and of
those the nearest; two equally near ones give the larger. It walks the grids of multiples of
`10 ^ g` from coarse to fine and takes the first that has a point which reads back. The exact
expansion stands behind the search, so the answer reads back whatever the search finds.

`Layout` holds what a format decides about the text: up to which exponents the notation is
positional, and whether a whole number shows a fraction.
-/
namespace GridOutage.Binary64

/-- The point of a grid that reads back to a rank, if there is one next to its magnitude. -/
def gridPoint? (rank : Nat) (g : Int) : Option Decimal :=
  let (num, den) := match g with
    | .ofNat e => (scaled rank, one * Nat.pow 10 e)
    | .negSucc e => (scaled rank * Nat.pow 10 (e + 1), one)
  let low := num / den
  let below : Decimal := ⟨low, g⟩
  let above : Decimal := ⟨low + 1, g⟩
  if above.rank = rank then
    if below.rank = rank && 2 * (num % den) < den then some below else some above
  else if below.rank = rank then some below
  else none

/-- The first grid, from exponent `g` downwards, with a point that reads back. -/
def searchGrids (rank : Nat) : Nat → Int → Option Decimal
  | 0, _ => none
  | n + 1, g => (gridPoint? rank g).orElse fun _ => searchGrids rank n (g - 1)

/-- All the digits of a magnitude: `2 ^ -1074` is `5 ^ 1074 · 10 ^ -1074`. -/
def exactDecimal (rank : Nat) : Decimal := ⟨scaled rank * Nat.pow 5 1074, -1074⟩

/-- A power of ten above the magnitude of a rank, from the place of its leading bit. -/
def startExponent (rank : Nat) : Int := ((scaled rank).log2 - 1073 : Int) * 30103 / 100000 + 1

/-- The decimal with the fewest digits that reads back to a rank above zero. -/
def shortest (rank : Nat) : Decimal :=
  (searchGrids rank 24 (startExponent rank)).getD (exactDecimal rank)

/-- How a format writes a number. -/
structure Layout where
  /-- The least and the greatest exponent of the leading digit written positionally. -/
  positional : Option (Int × Int)
  /-- Whole numbers show the fraction `.0`. -/
  fraction : Bool

namespace Layout

/-- `n` zeros. -/
def zeros (n : Nat) : List Char := List.replicate n '0'

/-- Digits with the point after the first `point` of them, filled up with zeros. -/
def placed (l : Layout) (digits : List Char) (point : Int) : List Char :=
  if point ≤ 0 then '0' :: '.' :: zeros point.natAbs ++ digits
  else if digits.length ≤ point.toNat then
    digits ++ zeros (point.toNat - digits.length) ++ if l.fraction then ['.', '0'] else []
  else digits.take point.toNat ++ '.' :: digits.drop point.toNat

/-- One digit, the others as its fraction, and the exponent. -/
def scientific (digits : List Char) (exponent : Int) : List Char :=
  digits.take 1 ++ (if digits.length ≤ 1 then [] else '.' :: digits.drop 1) ++
    'e' :: (toString exponent).toList

/-- The text of a magnitude. -/
def magnitude (l : Layout) (rank : Nat) : List Char :=
  if rank = topRank then ['i', 'n', 'f']
  else if rank = 0 then '0' :: if l.fraction then ['.', '0'] else []
  else
    let d := shortest rank
    let digits := Nat.toDigits 10 d.coefficient
    let point : Int := digits.length + d.exponent
    match l.positional with
    | none => l.placed digits point
    | some (low, high) =>
      if low ≤ point - 1 ∧ point - 1 ≤ high then l.placed digits point
      else scientific digits (point - 1)

/-- The text of a number. -/
def render (l : Layout) : Binary64 → List Char
  | .nan => ['N', 'a', 'N']
  | .number negative rank => (if negative then ['-'] else []) ++ l.magnitude rank

end Layout

/-- Numbers inside messages: positional whatever the exponent, whole numbers without a fraction. -/
def inMessage : Layout := ⟨none, false⟩

def messageText (x : Binary64) : String := String.ofList (inMessage.render x)

end GridOutage.Binary64
