/-!
# Globs (`topology` of ctg-filter)

A pattern of literal characters, `*` for any sequence and `?` for any one character, matched
against a whole text. The matcher goes through the pattern once from its end and keeps, for
every suffix of the text, whether the rest of the pattern matches it.

A pattern is handed to an engine for regular expressions, which refuses what comes out too large for
it. Where that happens is the engine's own affair, so an engine (`PatternEngine`) is a parameter
here. A pattern that it refuses matches only the text that it is.
-/
namespace GridOutage

/-- What patterns are handed to. The star that stands for a pattern left out is not too large.
`tooLarge` mirrors where `Regex::new` fails in `GlobPattern::new`. -/
class PatternEngine where
  tooLarge : String → Bool
  star_fits : tooLarge "*" = false

end GridOutage

namespace GridOutage.Filter

/-- Mirrors `GlobPattern`. -/
structure Glob where
  text : String
  deriving DecidableEq

namespace Glob

/-- The pattern that matches every text. -/
def any : Glob := ⟨"*"⟩

instance : Inhabited Glob := ⟨any⟩

/-- The engine does not take the pattern. -/
def oversized [PatternEngine] (g : Glob) : Bool := PatternEngine.tooLarge g.text

theorem any_oversized [PatternEngine] : any.oversized = false := PatternEngine.star_fits

/-- Marks every place from which on some place is marked. -/
def anyFrom (marks : List Bool) : List Bool :=
  marks.foldr (fun b later => (b || later.headD false) :: later) []

/-- The suffixes of a text matched by a pattern with one more character before it. `rest` marks
the suffixes that the pattern matches, from the whole text down to the empty suffix. -/
def prepend (c : Char) (text : List Char) (rest : List Bool) : List Bool :=
  if c = '*' then anyFrom rest
  else List.zipWith (fun d b => b && (c == '?' || c == d)) text rest.tail ++ [false]

/-- Marks the suffixes of a text that a pattern matches. -/
def suffixes (pattern text : List Char) : List Bool :=
  pattern.foldr (fun c rest => prepend c text rest) (List.replicate text.length false ++ [true])

/-- A pattern matches a whole text. -/
def acceptsChars (pattern text : List Char) : Bool := (suffixes pattern text).headD false

/-- Mirrors `GlobPattern::matches`. -/
def accepts [PatternEngine] (g : Glob) (s : String) : Bool :=
  if g.oversized then g.text == s else acceptsChars g.text.toList s.toList

/-- One or more stars and nothing else. Mirrors `GlobPattern::matches_everything`. -/
def acceptsEverything (g : Glob) : Bool :=
  !g.text.toList.isEmpty && g.text.toList.all (· == '*')

end Glob

end GridOutage.Filter
