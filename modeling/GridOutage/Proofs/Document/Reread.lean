import GridOutage.Document.Json
import GridOutage.Document.JsonText
import GridOutage.Proofs.Document.Written

/-!
# Values after they were written and read

The reader of JSON rounds a number more than once, so that what it makes of a number's text can be
a neighbour of the number. `Value.reread` is a value with all its numbers treated so, which is all
that writing and reading do to it. Where every number reads back the value stays as it is
(`Written.reread_eq`).
-/
namespace GridOutage.Document

namespace Json

/-- What the reader makes of the text of a number. -/
def reread (x : Binary64) : Value := (read (JsonText.oneLine (.real x))).1

/-- The reader makes of the text of a number that number. -/
structure ReadsBack (x : Binary64) : Prop where
  finite : x.isFinite = true
  reread_eq : reread x = .real x

end Json

namespace Value

mutual

/-- The value with every number replaced by what the reader makes of its text. -/
def reread : Value → Value
  | .real x => Json.reread x
  | .arr items => .arr (rereadItems items)
  | .obj entries => .obj (rereadEntries entries)
  | v => v

def rereadItems : List Value → List Value
  | [] => []
  | v :: vs => v.reread :: rereadItems vs

def rereadEntries : List (String × Value) → List (String × Value)
  | [] => []
  | (k, v) :: es => (k, v.reread) :: rereadEntries es

end

theorem rereadItems_eq (items : List Value) : rereadItems items = items.map reread := by
  induction items with
  | nil => rfl
  | cons v items ih => rw [rereadItems, ih, List.map_cons]

theorem rereadEntries_eq (entries : List (String × Value)) :
    rereadEntries entries = entries.map fun e => (e.1, e.2.reread) := by
  induction entries with
  | nil => rfl
  | cons e entries ih => rw [rereadEntries, ih, List.map_cons]

/-- Where all numbers read back, so does the whole value. -/
theorem Written.reread_eq {n : Nat} {v : Value} (h : v.Written Json.ReadsBack n) : v.reread = v := by
  induction h with
  | str s => rfl
  | real h => exact h.reread_eq
  | arr _ ih => rw [reread, rereadItems_eq, map_eq_self ih]
  | obj _ ih => rw [reread, rereadEntries_eq, map_entries_eq_self ih]

end Value

end GridOutage.Document
