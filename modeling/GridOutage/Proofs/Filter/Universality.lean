import GridOutage.Proofs.Filter.Selection

/-!
# Patterns that accept everything

Whether a pattern accepts every text is read off its characters: one or more stars and nothing else
(`Glob.acceptsEverything`). Of the patterns that the engine takes that is exact, since the empty text
tells a pattern of stars from all others (`language_nil_iff`). A pattern that is too large for the
engine accepts no more than its own text, stars or not.

An identifier pattern that says that it accepts everything leaves the whole condition out, so
`acceptsEverything_exact` says of both when there is indeed nothing to ask. It holds for every
engine, wherever that has its limit. `stars_refuse` is what goes wrong past it.
-/
namespace GridOutage.Filter

namespace Glob

/-! ## Languages -/

/-- The empty text belongs to the patterns of stars, the empty one among them. -/
theorem language_nil_iff {pattern : List Char} : Language pattern [] ↔ ∀ c ∈ pattern, c = '*' := by
  induction pattern with
  | nil => simp [language_nil]
  | cons c pattern ih =>
    rw [List.forall_mem_cons]
    by_cases hc : c = '*'
    · subst hc
      rw [language_star, ih]
      simp
    · rw [language_one hc]
      simp [hc]

theorem language_full_iff {pattern : List Char} :
    (∀ text, Language pattern text) ↔ pattern ≠ [] ∧ ∀ c ∈ pattern, c = '*' := by
  constructor
  · intro h
    refine ⟨?_, language_nil_iff.1 (h [])⟩
    rintro rfl
    exact List.cons_ne_nil ' ' [] (language_nil.1 (h [' ']))
  · intro h
    exact language_of_stars h.1 h.2

/-! ## Patterns -/

theorem acceptsEverything_iff {g : Glob} :
    g.acceptsEverything = true ↔ g.text.toList ≠ [] ∧ ∀ c ∈ g.text.toList, c = '*' := by
  simp [acceptsEverything]

section

variable [PatternEngine]

theorem accepts_iff_of_oversized {g : Glob} (hg : g.oversized = true) {s : String} :
    g.accepts s = true ↔ g.text = s := by
  rw [accepts, if_pos hg, beq_iff_eq]

/-- A pattern accepts every text exactly when it says so and the engine takes it. -/
theorem accepts_all_iff (g : Glob) :
    (∀ s, g.accepts s = true) ↔ g.acceptsEverything = true ∧ g.oversized = false := by
  cases hg : g.oversized with
  | true =>
    -- Two texts are one too many.
    have hnot : ¬ ∀ s, g.accepts s = true := by
      intro h
      have hempty := (accepts_iff_of_oversized hg).1 (h "")
      have hblank := (accepts_iff_of_oversized hg).1 (h " ")
      rw [hempty] at hblank
      exact absurd hblank (by decide)
    simp [hnot]
  | false =>
    simp only [accepts_iff_language hg, and_true, acceptsEverything_iff]
    rw [← language_full_iff]
    constructor
    · intro h text
      simpa using h (String.ofList text)
    · intro h s
      exact h s.toList

end

/-! ## Stars -/

/-- A pattern of some number of stars. -/
def stars (n : Nat) : Glob := ⟨String.ofList (List.replicate n '*')⟩

theorem acceptsEverything_stars {n : Nat} (hn : 0 < n) : (stars n).acceptsEverything = true := by
  rw [acceptsEverything_iff, stars, String.toList_ofList]
  exact ⟨by simpa using Nat.ne_of_gt hn, fun c hc => List.eq_of_mem_replicate hc⟩

end Glob

/-! ## Identity -/

/-- There is no condition on identity where the identifier's pattern says that it accepts
everything. -/
theorem identityCondition_eq_none_iff {idPattern namePattern : Option String} :
    identityCondition idPattern namePattern = none ↔
      (patternOf idPattern).acceptsEverything = true := by
  change (if (patternOf idPattern).acceptsEverything then none else some _) = none ↔ _
  split <;> simp_all

/-- A pattern accepts every text exactly when it says so and the engine takes it, and nothing is asked
of the identity exactly when there is no condition on it and the engine takes the identifier's
pattern. -/
theorem acceptsEverything_exact [PatternEngine] (g : Glob) (idPattern namePattern : Option String) :
    ((∀ s, g.accepts s = true) ↔ g.acceptsEverything = true ∧ g.oversized = false) ∧
      ((∀ e : Equipment, (patternOf idPattern).accepts e.id = true ∨
          Condition.nameHolds e (patternOf namePattern) = true) ↔
        identityCondition idPattern namePattern = none ∧
          (patternOf idPattern).oversized = false) := by
  refine ⟨g.accepts_all_iff, ?_⟩
  rw [identityCondition_eq_none_iff, ← Glob.accepts_all_iff]
  constructor
  · intro h s
    -- An element without a name is left to its identifier.
    have hunnamed := h { id := s, kind := .bus }
    simpa [Condition.nameHolds] using hunnamed
  · intro h e
    exact .inl (h e.id)

/-- Stars that are too many for the engine: the pattern says that it accepts everything, and nothing
is asked of the identity, but it does not accept an identifier of another length. -/
theorem stars_refuse [PatternEngine] {n : Nat} (hn : 0 < n) (hlarge : (Glob.stars n).oversized = true)
    {e : Equipment} (hid : n ≠ e.id.length) (hname : e.name = none) :
    (Glob.stars n).acceptsEverything = true ∧ (Glob.stars n).accepts e.id = false ∧
      identityCondition (some (Glob.stars n).text) none = none ∧
      ¬ ((Glob.stars n).accepts e.id = true ∨ Condition.nameHolds e Glob.any = true) := by
  have heverything := Glob.acceptsEverything_stars hn
  have hrefuses : (Glob.stars n).accepts e.id = false := by
    rw [← Bool.not_eq_true, Glob.accepts_iff_of_oversized hlarge]
    intro htext
    have hlength := congrArg String.length htext
    rw [Glob.stars, String.length_ofList, List.length_replicate] at hlength
    exact hid hlength
  refine ⟨heverything, hrefuses, identityCondition_eq_none_iff.2 heverything, ?_⟩
  simp [hrefuses, Condition.nameHolds, hname]

/-- A generator without a name, and 30000 stars, which the program's engine does not take. -/
theorem stars_refuse_generator :
    (Glob.stars 30000).acceptsEverything = true ∧ (Glob.stars 30000).accepts "G" = false ∧
      identityCondition (some (Glob.stars 30000).text) none = none ∧
      ¬ ((Glob.stars 30000).accepts "G" = true ∨
        Condition.nameHolds { id := "G", kind := .equipment .generator } Glob.any = true) := by
  have hlarge : (Glob.stars 30000).oversized = true := by
    rw [Glob.oversized, CommandLine.tooLarge_iff, Glob.stars, String.toList_ofList,
      CommandLine.compiledBytes_replicate]
    decide
  exact stars_refuse (by decide) hlarge
    (e := { id := "G", kind := .equipment .generator }) (by decide) rfl

end GridOutage.Filter
