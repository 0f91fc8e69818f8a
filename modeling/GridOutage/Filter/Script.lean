import GridOutage.Binary64.Shortest
import GridOutage.Document.Elements
import GridOutage.Filter.Condition

/-!
# Contingency scripts (`script` and `condition` of ctg-filter)

The text of conditions and of whole scripts. Scripts are compared as texts, so layout, quoting
and numbers are part of the form:

    for (equipment in network.generators) {
        if (equipment.terminal.voltageLevel.nominalV == 90.0 && isLocatedIn(['FR'], equipment)) {
            contingency(equipment.id) { equipments equipment.id }
        }
    }

* `quoted`: a text as a literal in single quotes.
* `Condition.chars`: conditions with several parts stand in parentheses, those with one do not.
* `script`: a script over a collection, guarded by conditions.
-/
namespace GridOutage.Filter

/-! ## Literals -/

/-- A character inside a literal: quotes and backslashes come after a backslash. -/
def escaped (c : Char) : List Char := if c = '\'' ∨ c = '\\' then ['\\', c] else [c]

/-- A text in single quotes. -/
def quoted (cs : List Char) : List Char := '\'' :: cs.flatMap escaped ++ ['\'']

/-- Mirrors `quote`. -/
def quote (s : String) : String := String.ofList (quoted s.toList)

/-- Bounds show a fraction or an exponent; numbers below `10 ^ -4` or from `10 ^ 16` on show an
exponent. -/
def boundLayout : Binary64.Layout := ⟨some (-4, 15), true⟩

/-- Mirrors `format_bound`. -/
def boundText (x : Binary64) : String := String.ofList (boundLayout.render x)

/-! ## Lists -/

/-- Texts with a separator between them. -/
def joined (separator : List Char) : List (List Char) → List Char
  | [] => []
  | [s] => s
  | s :: t :: r => s ++ separator ++ joined separator (t :: r)

/-- The codes of a set as a list of literals. Mirrors `country_list`. -/
def countryList (s : CountrySet) : List Char :=
  '[' :: joined [','] (s.members.map fun c => quoted c.chars) ++ [']']

/-! ## Conditions -/

namespace Condition

/-- Parts between separators, in parentheses unless there is just one. Mirrors `render_joined`. -/
def grouped (separator : String) : List (List Char) → List Char
  | [s] => s
  | parts => '(' :: joined separator.toList parts ++ [')']

mutual

/-- The text of a condition. Mirrors `Condition::render`. -/
def chars : Condition → List Char
  | .voltage p c b =>
    p.path.toList ++ ".voltageLevel.nominalV ".toList ++ c.symbol.toList ++
      ' ' :: boundLayout.render b
  | .id g => "matchID(".toList ++ quoted g.text.toList ++ ", equipment)".toList
  | .name g => "matchName(".toList ++ quoted g.text.toList ++ ", equipment)".toList
  | .located p s =>
    "isLocatedIn(".toList ++ countryList s ++ ", ".toList ++ p.located.toList ++ [')']
  | .all parts => grouped " && " (allChars parts)
  | .any parts => grouped " || " (allChars parts)
  | .helper function s t _ =>
    function.toList ++ "(equipment, ".toList ++ countryList s ++ ", ".toList ++ countryList t ++ [')']

def allChars : List Condition → List (List Char)
  | [] => []
  | c :: cs => c.chars :: allChars cs

end

theorem allChars_eq (cs : List Condition) : allChars cs = cs.map chars := by
  induction cs with
  | nil => rfl
  | cons c cs ih => simp [allChars, ih]

def text (c : Condition) : String := String.ofList c.chars

/-- The texts of a list of conditions, all of which must hold. -/
def guard (cs : List Condition) : List Char := joined " && ".toList (cs.map chars)

end Condition

/-! ## Scripts -/

/-- The script that trips each member of a collection for which all the conditions hold. -/
def scriptChars (collection : String) (cs : List Condition) : List Char :=
  "for (equipment in network.".toList ++ collection.toList ++ ") \x7b\n    if (".toList ++
    Condition.guard cs ++
    ") \x7b\n        contingency(equipment.id) \x7b equipments equipment.id \x7d\n    \x7d\n\x7d\n".toList

/-- Mirrors `render_script`. -/
def script (collection : String) (cs : List Condition) : String :=
  String.ofList (scriptChars collection cs)

end GridOutage.Filter
