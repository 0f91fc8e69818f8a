/-!
# Binary64 numbers

The numbers of IEEE 754's binary64 format, held so that their order is the order of whole
numbers: a magnitude is its *rank*, the count of smaller magnitudes of the format. Rank 0 is
zero, `topRank` is infinity, and every rank below it is finite. Not a number is a value of its
own, and there is one of it.

* `le`, `lt`: the order, under which the two zeros are equal and `nan` is related to nothing.
* `scaled`: a finite magnitude as a multiple of `2 ^ -1074`, the least one above zero.
-/
namespace GridOutage

namespace Binary64

/-- The rank of infinity. -/
def topRank : Nat := 0x7FF0000000000000

end Binary64

/-- A binary64 number: not a number, or a sign and the rank of a magnitude. -/
inductive Binary64 where
  | nan
  | number (negative : Bool) (rank : Fin (Binary64.topRank + 1))
  deriving DecidableEq

namespace Binary64

/-- The number of a sign and a rank; a rank past infinity's is infinity's. -/
def ofRank (negative : Bool) (rank : Nat) : Binary64 :=
  .number negative ⟨min rank topRank, Nat.lt_succ_of_le (Nat.min_le_right _ _)⟩

instance : Inhabited Binary64 := ⟨ofRank false 0⟩

def zero : Binary64 := ofRank false 0

def infinity (negative : Bool) : Binary64 := ofRank negative topRank

/-- Neither `nan` nor infinite. -/
def isFinite : Binary64 → Bool
  | .nan => false
  | .number _ r => r.val < topRank

/-- The place of a number in the order: its rank, negated below zero. -/
def key (negative : Bool) (rank : Nat) : Int := if negative then -(rank : Int) else rank

def lt : Binary64 → Binary64 → Bool
  | .number s r, .number t q => key s r < key t q
  | _, _ => false

def le : Binary64 → Binary64 → Bool
  | .number s r, .number t q => key s r ≤ key t q
  | _, _ => false

/-- Numerically equal: `0.0` and `-0.0` are, `nan` is not equal to itself. -/
def same (a b : Binary64) : Bool := a.le b && b.le a

def abs : Binary64 → Binary64
  | .nan => .nan
  | .number _ r => .number false r

/-- How many ranks share an exponent: a rank has 52 low bits below it. -/
def binade : Nat := Nat.pow 2 52

/-- The number one in units of `2 ^ -1074`. -/
def one : Nat := Nat.pow 2 1074

/-- The magnitude of a rank in units of `2 ^ -1074`. In the lowest binade the format counts units;
from there on the low bits extend a leading one, and the bits above them are the exponent. -/
def scaled (rank : Nat) : Nat :=
  if rank < binade then rank
  else (binade + rank % binade) * Nat.pow 2 (rank / binade - 1)

end Binary64

end GridOutage
