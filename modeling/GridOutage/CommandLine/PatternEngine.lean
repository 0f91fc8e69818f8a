import GridOutage.Filter.Glob

/-!
# The program's pattern engine (regex)

`Regex::new` fails where the compiled form of a pattern takes more than 10 MiB, the default of the
regex library. A literal character compiles to a state for each of its bytes, a wildcard to the many
that tell the encodings of all characters apart. What these take is an estimate, so a pattern close
to the limit may be judged otherwise than by the library itself.
-/
namespace GridOutage.CommandLine

/-- The bytes that a character of a pattern takes in the compiled form. -/
def compiledSize (c : Char) : Nat :=
  if c = '*' then 1008 else if c = '?' then 960 else 32 * c.utf8Size

/-- The bytes of the compiled form of a pattern. -/
def compiledBytes (pattern : List Char) : Nat := pattern.foldr (fun c n => compiledSize c + n) 0

/-- The most bytes that a compiled form may take. -/
def compiledLimit : Nat := 10 * Nat.pow 2 20

instance : PatternEngine where
  tooLarge pattern := compiledLimit < compiledBytes pattern.toList
  star_fits := by decide

theorem tooLarge_iff {pattern : String} :
    PatternEngine.tooLarge pattern = true ↔ compiledLimit < compiledBytes pattern.toList :=
  decide_eq_true_iff

theorem compiledBytes_replicate (n : Nat) (c : Char) :
    compiledBytes (List.replicate n c) = n * compiledSize c := by
  induction n with
  | zero => exact (Nat.zero_mul _).symm
  | succ n ih =>
    rw [List.replicate_succ, compiledBytes, List.foldr_cons, ← compiledBytes, ih, Nat.succ_mul,
      Nat.add_comm]

end GridOutage.CommandLine
