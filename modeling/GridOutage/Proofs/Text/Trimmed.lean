import GridOutage.Text.Blank
import Mathlib.Data.List.DropRight

/-!
# Texts without the blanks at their ends

`Trimmed` says what is left of a text when the blanks at its ends are taken away, without saying how
it is found: around it there are only blanks, and it neither starts nor ends with one. Every text
has exactly one such part, and `trimChars` finds it (`trimChars_eq_iff`).

`Spells` is how a name in capitals may be written where blanks and the case of letters do not matter.
-/
namespace GridOutage.Text

/-- What is left of a text without the blanks at its ends. -/
structure Trimmed (cs core : List Char) : Prop where
  around : ∃ lead trail, cs = lead ++ core ++ trail ∧ (∀ c ∈ lead, isBlank c = true) ∧
    ∀ c ∈ trail, isBlank c = true
  first : ∀ c ∈ core.head?, isBlank c = false
  last : ∀ c ∈ core.getLast?, isBlank c = false

theorem dropWhile_of_head {p : Char → Bool} {cs : List Char} (h : ∀ c ∈ cs.head?, p c = false) :
    cs.dropWhile p = cs := by
  cases cs with
  | nil => rfl
  | cons c cs => rw [List.dropWhile_cons_of_neg (by simp [h c rfl])]

theorem head_dropWhile (p : Char → Bool) (cs : List Char) :
    ∀ c ∈ (cs.dropWhile p).head?, p c = false := by
  intro c hc
  have hnot := List.head?_dropWhile_not p cs
  rw [hc] at hnot
  exact hnot

theorem trimmed_trimChars (cs : List Char) : Trimmed cs (trimChars cs) := by
  obtain ⟨trail, hrest, htrail⟩ : ∃ trail, cs.dropWhile isBlank = trimChars cs ++ trail ∧
      ∀ c ∈ trail, isBlank c = true := by
    refine ⟨((cs.dropWhile isBlank).reverse.takeWhile isBlank).reverse, ?_, fun c hc => ?_⟩
    · rw [trimChars, ← List.reverse_append, List.takeWhile_append_dropWhile, List.reverse_reverse]
    · exact List.mem_takeWhile_imp (List.mem_reverse.1 hc)
  refine ⟨⟨cs.takeWhile isBlank, trail, ?_, fun c hc => List.mem_takeWhile_imp hc, htrail⟩,
    fun c hc => ?_, fun c hc => ?_⟩
  · rw [List.append_assoc, ← hrest, List.takeWhile_append_dropWhile]
  · -- What is left starts where the text does once the blanks before it are gone.
    refine head_dropWhile isBlank cs c ?_
    rw [hrest, List.head?_append, Option.mem_def.1 hc]
    rfl
  · rw [trimChars, List.getLast?_reverse] at hc
    exact head_dropWhile _ _ c hc

theorem Trimmed.trimChars_eq {cs core : List Char} (h : Trimmed cs core) : trimChars cs = core := by
  obtain ⟨lead, trail, rfl, hlead, htrail⟩ := h.around
  by_cases hcore : core = []
  · subst hcore
    refine trimChars_nil_of_all (List.all_eq_true.2 fun c hc => ?_)
    rw [List.append_nil, List.mem_append] at hc
    exact hc.elim (hlead c) (htrail c)
  · have hfront : (lead ++ core ++ trail).dropWhile isBlank = core ++ trail := by
      rw [List.append_assoc, List.dropWhile_append_of_pos hlead]
      refine dropWhile_of_head fun c hc => h.first c ?_
      rwa [List.head?_append_of_ne_nil _ hcore] at hc
    rw [trimChars, hfront, List.reverse_append,
      List.dropWhile_append_of_pos fun c hc => htrail c (List.mem_reverse.1 hc), dropWhile_of_head,
      List.reverse_reverse]
    rw [List.head?_reverse]
    exact h.last

theorem trimChars_eq_iff {cs core : List Char} : trimChars cs = core ↔ Trimmed cs core :=
  ⟨fun h => h ▸ trimmed_trimChars cs, Trimmed.trimChars_eq⟩

/-- The text is the name, blanks around it and the case of ASCII letters apart. -/
def Spells (s : String) (name : List Char) : Prop :=
  ∃ core, Trimmed s.toList core ∧ core.map Char.toUpper = name

theorem spells_iff {s : String} {name : List Char} :
    Spells s name ↔ (trimChars s.toList).map Char.toUpper = name := by
  simp only [Spells, ← trimChars_eq_iff, exists_eq_left']

theorem Spells.unique {s : String} {name other : List Char} (h : Spells s name)
    (ho : Spells s other) : name = other :=
  (spells_iff.1 h).symm.trans (spells_iff.1 ho)

end GridOutage.Text
