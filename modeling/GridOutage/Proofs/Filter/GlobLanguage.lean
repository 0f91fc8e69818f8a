import GridOutage.CommandLine.PatternEngine
import Mathlib.Data.List.Forall2

/-!
# The language of a glob

A text belongs to a pattern when it splits into consecutive pieces, one for each character of the
pattern. The matcher keeps a mark for every suffix of the text instead; `suffixes_tail` says that
the marks of a shorter text are among those of a longer one, which turns the matcher into a
recursion on pattern and text, and `acceptsChars_iff` says that it decides the language. In terms of
texts that is `accepts_iff_pieces`.
-/
namespace GridOutage.Filter.Glob

/-- What a character of a pattern takes of a text. -/
def Takes (c : Char) (piece : List Char) : Prop :=
  if c = '*' then True else if c = '?' then piece.length = 1 else piece = [c]

/-- A text that splits into pieces taken by the characters of a pattern. -/
def Language (pattern text : List Char) : Prop :=
  ∃ pieces, List.Forall₂ Takes pattern pieces ∧ pieces.flatten = text

theorem language_nil {text : List Char} : Language [] text ↔ text = [] := by
  simp [Language, eq_comm]

theorem language_cons {c : Char} {pattern text : List Char} :
    Language (c :: pattern) text ↔
      ∃ piece rest, text = piece ++ rest ∧ Takes c piece ∧ Language pattern rest := by
  unfold Language
  constructor
  · intro h
    obtain ⟨pieces, h, rfl⟩ := h
    obtain ⟨piece, rest, ht, hr, rfl⟩ := List.forall₂_cons_left_iff.1 h
    exact ⟨piece, rest.flatten, List.flatten_cons, ht, rest, hr, rfl⟩
  · intro h
    obtain ⟨piece, rest, rfl, ht, pieces, hr, rfl⟩ := h
    exact ⟨piece :: pieces, .cons ht hr, List.flatten_cons⟩

/-- A star takes nothing, or one more character. -/
theorem language_star {pattern text : List Char} :
    Language ('*' :: pattern) text ↔
      Language pattern text ∨ ∃ c rest, text = c :: rest ∧ Language ('*' :: pattern) rest := by
  rw [language_cons]
  constructor
  · intro h
    obtain ⟨piece, rest, rfl, -, h⟩ := h
    cases piece with
    | nil => exact .inl h
    | cons c piece =>
      exact .inr ⟨c, piece ++ rest, rfl, language_cons.2 ⟨piece, rest, rfl, by simp [Takes], h⟩⟩
  · intro h
    rcases h with h | ⟨c, rest, rfl, h⟩
    · exact ⟨[], text, rfl, by simp [Takes], h⟩
    · obtain ⟨piece, rest, rfl, -, h⟩ := language_cons.1 h
      exact ⟨c :: piece, rest, rfl, by simp [Takes], h⟩

/-- Any other character takes one character. -/
theorem language_one {c : Char} (hc : c ≠ '*') {pattern text : List Char} :
    Language (c :: pattern) text ↔
      ∃ d rest, text = d :: rest ∧ (c = '?' ∨ c = d) ∧ Language pattern rest := by
  rw [language_cons]
  constructor
  · intro h
    obtain ⟨piece, rest, rfl, ht, h⟩ := h
    unfold Takes at ht
    rw [if_neg hc] at ht
    split at ht
    · next hq =>
      obtain ⟨d, rfl⟩ := List.length_eq_one_iff.1 ht
      exact ⟨d, rest, rfl, .inl hq, h⟩
    · exact ⟨c, rest, by rw [ht]; rfl, .inr rfl, h⟩
  · intro h
    obtain ⟨d, rest, rfl, hd, h⟩ := h
    refine ⟨[d], rest, rfl, ?_, h⟩
    unfold Takes
    rw [if_neg hc]
    split
    · rfl
    · rw [hd.resolve_left ‹_›]

/-! ## The matcher -/

theorem suffixes_length (pattern text : List Char) :
    (suffixes pattern text).length = text.length + 1 := by
  induction pattern with
  | nil => simp [suffixes]
  | cons c pattern ih =>
    have hany : ∀ marks : List Bool, (anyFrom marks).length = marks.length := by
      intro marks
      induction marks with
      | nil => rfl
      | cons b marks ih => simpa [anyFrom] using ih
    change (prepend c text (suffixes pattern text)).length = _
    unfold prepend
    split
    · rw [hany, ih]
    · simp [ih]

/-- Dropping the first character of a text drops the first mark. -/
theorem suffixes_tail (pattern : List Char) (d : Char) (text : List Char) :
    (suffixes pattern (d :: text)).tail = suffixes pattern text := by
  induction pattern with
  | nil => simp [suffixes, List.replicate_succ]
  | cons c pattern ih =>
    change (prepend c (d :: text) (suffixes pattern (d :: text))).tail =
      prepend c text (suffixes pattern text)
    have hlen := suffixes_length pattern (d :: text)
    have hlen' := suffixes_length pattern text
    generalize suffixes pattern (d :: text) = marks at ih hlen
    generalize suffixes pattern text = marks' at ih hlen'
    cases marks with
    | nil => simp at hlen
    | cons b marks =>
      obtain rfl : marks = marks' := ih
      unfold prepend
      split
      · rfl
      · cases marks with
        | nil => simp at hlen'
        | cons b' marks => rfl

theorem acceptsChars_nil (text : List Char) : acceptsChars [] text = text.isEmpty := by
  cases text <;> rfl

theorem acceptsChars_star_nil (pattern : List Char) :
    acceptsChars ('*' :: pattern) [] = acceptsChars pattern [] := by
  have hlen := suffixes_length pattern []
  change (anyFrom (suffixes pattern [])).headD false = (suffixes pattern []).headD false
  generalize suffixes pattern [] = marks at hlen
  obtain ⟨b, rfl⟩ := List.length_eq_one_iff.1 hlen
  simp [anyFrom]

theorem acceptsChars_star_cons (pattern : List Char) (d : Char) (text : List Char) :
    acceptsChars ('*' :: pattern) (d :: text) =
      (acceptsChars pattern (d :: text) || acceptsChars ('*' :: pattern) text) := by
  have htail := suffixes_tail pattern d text
  have hlen := suffixes_length pattern (d :: text)
  change (anyFrom (suffixes pattern (d :: text))).headD false =
    ((suffixes pattern (d :: text)).headD false || (anyFrom (suffixes pattern text)).headD false)
  rw [← htail]
  generalize suffixes pattern (d :: text) = marks at hlen
  cases marks with
  | nil => simp at hlen
  | cons b marks => rfl

theorem acceptsChars_one_nil {c : Char} (hc : c ≠ '*') (pattern : List Char) :
    acceptsChars (c :: pattern) [] = false := by
  change (prepend c [] (suffixes pattern [])).headD false = false
  simp [prepend, hc]

theorem acceptsChars_one_cons {c : Char} (hc : c ≠ '*') (pattern : List Char) (d : Char)
    (text : List Char) :
    acceptsChars (c :: pattern) (d :: text) = (acceptsChars pattern text && (c == '?' || c == d)) := by
  have htail := suffixes_tail pattern d text
  have hlen := suffixes_length pattern text
  change (prepend c (d :: text) (suffixes pattern (d :: text))).headD false =
    ((suffixes pattern text).headD false && _)
  unfold prepend
  rw [if_neg hc, htail]
  generalize suffixes pattern text = marks at hlen
  cases marks with
  | nil => simp at hlen
  | cons b marks => rfl

theorem acceptsChars_iff (pattern text : List Char) :
    acceptsChars pattern text = true ↔ Language pattern text := by
  induction pattern generalizing text with
  | nil => rw [acceptsChars_nil, language_nil, List.isEmpty_iff]
  | cons c pattern ih =>
    by_cases hc : c = '*'
    · subst hc
      -- How much the star takes is an induction on the text.
      induction text with
      | nil => rw [acceptsChars_star_nil, ih, language_star]; simp
      | cons d text iht =>
        rw [acceptsChars_star_cons, Bool.or_eq_true, ih, iht, @language_star pattern (d :: text)]
        simp
    · cases text with
      | nil => rw [acceptsChars_one_nil hc, language_one hc]; simp
      | cons d text =>
        rw [acceptsChars_one_cons hc, language_one hc]
        simp [ih, and_comm]

/-- A pattern within the size limit accepts the texts of its language. -/
theorem accepts_iff_language [PatternEngine] {g : Glob} (hg : g.oversized = false) {s : String} :
    g.accepts s = true ↔ Language g.text.toList s.toList := by
  rw [accepts, hg]
  exact acceptsChars_iff _ _

/-! ## Texts in pieces -/

/-- What a character of a pattern stands for: a star for any text, a question mark for any one
character, and every other character for itself. -/
def StandsFor (c : Char) (piece : String) : Prop :=
  if c = '*' then True else if c = '?' then piece.length = 1 else piece = String.singleton c

theorem standsFor_iff {c : Char} {piece : String} : StandsFor c piece ↔ Takes c piece.toList := by
  have hself : piece = String.singleton c ↔ piece.toList = [c] := by
    rw [← String.toList_inj, String.toList_singleton]
  rw [StandsFor, Takes, hself, String.length_toList]

theorem language_iff_pieces {pattern : List Char} {s : String} :
    Language pattern s.toList ↔
      ∃ pieces, List.Forall₂ StandsFor pattern pieces ∧ String.join pieces = s := by
  constructor
  · intro h
    obtain ⟨pieces, hpieces, hjoin⟩ := h
    refine ⟨pieces.map String.ofList, List.forall₂_map_right_iff.2 ?_, ?_⟩
    · exact hpieces.imp fun c piece hc => standsFor_iff.2 (by rwa [String.toList_ofList])
    · rw [← String.toList_inj, String.toList_join, List.flatMap_map, ← hjoin]
      simp [List.flatMap]
  · intro h
    obtain ⟨pieces, hpieces, rfl⟩ := h
    refine ⟨pieces.map String.toList, List.forall₂_map_right_iff.2 ?_, ?_⟩
    · exact hpieces.imp fun c piece hc => standsFor_iff.1 hc
    · rw [String.toList_join, List.flatMap]

/-- A pattern within the size limit accepts a text exactly when the whole text is cut into pieces,
one for each character of the pattern and what that stands for. -/
theorem accepts_iff_pieces [PatternEngine] {g : Glob} (hg : g.oversized = false) (s : String) :
    g.accepts s = true ↔
      ∃ pieces, List.Forall₂ StandsFor g.text.toList pieces ∧ String.join pieces = s :=
  (accepts_iff_language hg).trans language_iff_pieces

/-- Line breaks, brackets and letters outside of ASCII are characters like others, and a point is
no wildcard. -/
theorem accepts_iff_pieces_point :
    (Glob.mk "*.?\n(*é").oversized = false ∧
      (∃ pieces, List.Forall₂ StandsFor (Glob.mk "*.?\n(*é").text.toList pieces ∧
        String.join pieces = "a..b.☃\n((☃é") ∧
      ¬ ∃ pieces, List.Forall₂ StandsFor (Glob.mk "*.?\n(*é").text.toList pieces ∧
        String.join pieces = "a..b☃.\n((☃é" := by
  have hfits : (Glob.mk "*.?\n(*é").oversized = false := by decide
  refine ⟨hfits, (accepts_iff_pieces hfits _).1 (by decide), ?_⟩
  rw [← accepts_iff_pieces hfits]
  decide

/-! ## Patterns of stars -/

/-- A pattern of stars alone has every text in its language. -/
theorem language_of_stars {pattern : List Char} (hne : pattern ≠ [])
    (h : ∀ c ∈ pattern, c = '*') (text : List Char) : Language pattern text := by
  induction pattern with
  | nil => exact absurd rfl hne
  | cons c pattern ih =>
    obtain ⟨rfl, hrest⟩ := List.forall_mem_cons.1 h
    cases pattern with
    | nil => exact language_cons.2 ⟨text, [], by simp, by simp [Takes], language_nil.2 rfl⟩
    | cons d pattern => exact language_star.2 (.inl (ih (by simp) hrest))

/-- So a pattern that says that it accepts everything does. -/
theorem accepts_of_acceptsEverything [PatternEngine] {g : Glob} (hg : g.oversized = false)
    (h : g.acceptsEverything = true) (s : String) : g.accepts s = true := by
  unfold acceptsEverything at h
  obtain ⟨hne, hstars⟩ := Bool.and_eq_true_iff.1 h
  rw [accepts_iff_language hg]
  exact language_of_stars (by simpa using hne) (by simpa using hstars) _

end GridOutage.Filter.Glob
