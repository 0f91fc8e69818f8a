import GridOutage.Binary64.Basic

/-!
# The binary64 number nearest to a quotient

`nearestRank num den` is the rank of the magnitude nearest to `num / den`, a tie going to the
even rank, computed in whole numbers. Converting a whole number and every operation on numbers are
this one rounding of an exact value.

There are two ways to read a decimal. `Decimal.rank` rounds its exact value once.
`Decimal.steppedRank` rounds the coefficient first, and its product or quotient with a power of ten
after that, so that it can miss the nearest number by a place.
-/
namespace GridOutage.Binary64

/-- The rank nearest to `num / den`; of two equally near ranks the even one. -/
def nearestRank (num den : Nat) : Nat :=
  let units := num * one / den
  let e := units.log2 - 52
  let q := units / Nat.pow 2 e
  let step := Nat.pow 2 e * den
  let excess := 2 * (num * one - q * step)
  let up := step < excess || (excess == step && q % 2 == 1)
  min topRank (e * binade + q + if up then 1 else 0)

/-- The rank nearest to the product of two finite magnitudes. -/
def productRank (r q : Nat) : Nat := nearestRank (scaled r * scaled q) (one * one)

/-- The rank nearest to the quotient of two finite magnitudes, the second not zero. -/
def quotientRank (r q : Nat) : Nat := nearestRank (scaled r) (scaled q)

/-- A decimal `coefficient · 10 ^ exponent`. -/
structure Decimal where
  coefficient : Nat
  exponent : Int
  deriving DecidableEq, Repr

namespace Decimal

/-- The value as a quotient of whole numbers. -/
def quotient (d : Decimal) : Nat × Nat :=
  match d.exponent with
  | .ofNat e => (d.coefficient * Nat.pow 10 e, 1)
  | .negSucc e => (d.coefficient, Nat.pow 10 (e + 1))

/-- The rank nearest to the decimal. -/
def rank (d : Decimal) : Nat := nearestRank d.quotient.1 d.quotient.2

/-- The rank of a power of ten. The last one that is finite is `10 ^ 308`. -/
def tenRank (e : Nat) : Nat := nearestRank (Nat.pow 10 e) 1

/-- The decimal as a number that is multiplied or divided by a power of ten, each step rounded.
A power past the last one is divided by in two steps, and past both nothing is left of a coefficient
of 64 bits. Mirrors `f64_from_parts` of serde_json. -/
def steppedRank (d : Decimal) : Nat :=
  let r := nearestRank d.coefficient 1
  match d.exponent with
  | .ofNat e =>
    if r = 0 then 0
    else if e ≤ 308 then productRank r (tenRank e)
    else topRank
  | .negSucc e =>
    if e + 1 ≤ 308 then quotientRank r (tenRank (e + 1))
    else if e + 1 ≤ 616 then quotientRank (quotientRank r (tenRank 308)) (tenRank (e + 1 - 308))
    else 0

end Decimal

/-- The number nearest to `coefficient · 10 ^ exponent`. Exponents far outside the format's range
are settled before any power of ten is computed. -/
def ofDecimal (negative : Bool) (coefficient : Nat) (exponent : Int) : Binary64 :=
  if coefficient = 0 then ofRank negative 0
  else if 400 < exponent then ofRank negative topRank
  else if exponent + (Nat.toDigits 10 coefficient).length < -400 then ofRank negative 0
  else ofRank negative (Decimal.rank ⟨coefficient, exponent⟩)

/-- The number nearest to a whole number. -/
def ofInt (n : Int) : Binary64 := ofRank (n < 0) (nearestRank n.natAbs 1)

/-- A finite number in units of `2 ^ -1074`. -/
def signedUnits (negative : Bool) (rank : Nat) : Int :=
  if negative then -(scaled rank : Int) else scaled rank

/-- The difference, rounded once. -/
def sub : Binary64 → Binary64 → Binary64
  | .number s r, .number t q =>
    if r.val = topRank then
      if q.val = topRank ∧ s = t then .nan else .number s r
    else if q.val = topRank then .number (!t) q
    else
      let d := signedUnits s r - signedUnits t q
      ofRank (d < 0) (nearestRank d.natAbs one)
  | _, _ => .nan

end GridOutage.Binary64
