import GridOutage.Document.Elements
import GridOutage.Proofs.Outcome
import GridOutage.Proofs.Text.Trimmed

/-!
# Which texts are codes of countries

A text is the code of a country when, blanks around it apart, it is two ASCII letters of either case
(`TwoLetters`), and the country is the one of those letters in capitals. A list of codes is a set of
countries unless one of them is no code; the first such code is the one that is told.
-/
namespace GridOutage

open Outcome

namespace Country

/-- Two ASCII letters, blanks around them apart. -/
def TwoLetters (s : String) : Prop :=
  ∃ a b, Text.Trimmed s.toList [a, b] ∧ a.isAlpha = true ∧ b.isAlpha = true

/-! ## Letters -/

theorem toNat_letter (i : Fin 26) : (letter i).toNat = 'A'.toNat + i := by
  revert i
  decide

theorem eq_letter_iff {c : Char} {i : Fin 26} : c = letter i ↔ c.toNat = 'A'.toNat + i := by
  rw [← toNat_letter, Char.toNat_inj]

theorem place?_eq_some_iff {c : Char} {i : Fin 26} : place? c = some i ↔ c.toUpper = letter i := by
  have hcodes : 'A'.toNat = 65 ∧ 'Z'.toNat = 90 := ⟨rfl, rfl⟩
  rw [eq_letter_iff]
  unfold place?
  dsimp only
  split
  · simp only [Option.some.injEq, Fin.ext_iff]
    omega
  · simp only [reduceCtorEq, false_iff]
    omega

/-- The letters are those that are capitals once they are turned into capitals. -/
theorem isAlpha_iff (c : Char) :
    c.isAlpha = true ↔ 'A'.toNat ≤ c.toUpper.toNat ∧ c.toUpper.toNat ≤ 'Z'.toNat := by
  have hcodes : 'A'.val.toNat = 65 ∧ 'Z'.val.toNat = 90 ∧ 'a'.val.toNat = 97 ∧
      'z'.val.toNat = 122 := ⟨rfl, rfl, rfl, rfl⟩
  have halpha : c.isAlpha = (decide ('A'.val ≤ c.val ∧ c.val ≤ 'Z'.val) ||
      (decide ('a'.val ≤ c.val) && decide (c.val ≤ 'z'.val))) := rfl
  rw [halpha, Bool.or_eq_true, Bool.and_eq_true]
  simp only [decide_eq_true_eq, UInt32.le_iff_toNat_le, Char.toNat]
  by_cases hsmall : 'a'.val ≤ c.val ∧ c.val ≤ 'z'.val
  · have hupper : c.toUpper.val = c.val + ('A'.val - 'a'.val) := by
      change Char.val (dite ('a'.val ≤ c.val ∧ c.val ≤ 'z'.val) _ _) = _
      rw [dif_pos hsmall]
    -- What is added is 32 less than `2 ^ 32`.
    have hshift : c.toUpper.val.toNat = (c.val.toNat + 4294967264) % 4294967296 := by
      rw [hupper, UInt32.toNat_add]
      rfl
    rw [UInt32.le_iff_toNat_le, UInt32.le_iff_toNat_le] at hsmall
    omega
  · have hupper : c.toUpper = c := dif_neg hsmall
    rw [hupper]
    rw [UInt32.le_iff_toNat_le, UInt32.le_iff_toNat_le] at hsmall
    omega

theorem exists_letter_iff {c : Char} : (∃ i, c.toUpper = letter i) ↔ c.isAlpha = true := by
  have hcodes : 'A'.toNat = 65 ∧ 'Z'.toNat = 90 := ⟨rfl, rfl⟩
  simp only [eq_letter_iff, isAlpha_iff]
  constructor
  · rintro ⟨i, hi⟩
    omega
  · intro h
    exact ⟨⟨c.toUpper.toNat - 'A'.toNat, by omega⟩, by dsimp only; omega⟩

/-! ## Codes -/

theorem ofText?_eq_some_iff {s : String} {c : Country} :
    ofText? s = some c ↔ Text.Spells s c.chars := by
  rw [Text.spells_iff]
  unfold ofText?
  split
  · next a b htrim =>
    rw [htrim]
    cases c
    simp [Option.bind_eq_some_iff, place?_eq_some_iff, chars]
  · next hno =>
    simp only [reduceCtorEq, false_iff]
    intro hmap
    obtain ⟨a, rest, hcore, -, hrest⟩ := List.map_eq_cons_iff.1 hmap
    obtain ⟨b, rest', rfl, -, hnil⟩ := List.map_eq_cons_iff.1 hrest
    rw [List.map_eq_nil_iff.1 hnil] at hcore
    exact hno a b hcore

theorem twoLetters_iff {s : String} : TwoLetters s ↔ ∃ c : Country, Text.Spells s c.chars := by
  constructor
  · rintro ⟨a, b, htrim, ha, hb⟩
    obtain ⟨i, hi⟩ := exists_letter_iff.2 ha
    obtain ⟨j, hj⟩ := exists_letter_iff.2 hb
    exact ⟨⟨i, j⟩, [a, b], htrim, by simp [chars, hi, hj]⟩
  · rintro ⟨c, core, htrim, hmap⟩
    obtain ⟨a, rest, rfl, ha, hrest⟩ := List.map_eq_cons_iff.1 hmap
    obtain ⟨b, rest', rfl, hb, hnil⟩ := List.map_eq_cons_iff.1 hrest
    rw [List.map_eq_nil_iff.1 hnil] at htrim
    exact ⟨a, b, htrim, exists_letter_iff.1 ⟨_, ha⟩, exists_letter_iff.1 ⟨_, hb⟩⟩

theorem ofCode_eq_ok_iff {s : String} {c : Country} : ofCode s = .ok c ↔ Text.Spells s c.chars := by
  rw [← ofText?_eq_some_iff]
  unfold ofCode
  cases ofText? s <;> simp

theorem ofCode_eq_error_iff {s : String} {e : Filter.Rejection} :
    ofCode s = .error e ↔ ¬ TwoLetters s ∧ e = .country s := by
  simp only [twoLetters_iff, ← ofText?_eq_some_iff]
  unfold ofCode
  cases ofText? s <;> simp [eq_comm]

end Country

namespace CountrySet

theorem ofCodes_eq_ok_iff {codes : List String} {s : CountrySet} :
    ofCodes codes = .ok s ↔
      ∃ cs : List Country, List.Forall₂ (fun code c => Text.Spells code c.chars) codes cs ∧
        s = ofList cs := by
  rw [ofCodes, map_eq_ok_iff]
  simp only [mapM_eq_ok_iff, Country.ofCode_eq_ok_iff]
  exact exists_congr fun cs => and_congr_right fun _ => eq_comm

theorem ofCodes_eq_error_iff {codes : List String} {e : Filter.Rejection} :
    ofCodes codes = .error e ↔
      ∃ code, First (fun code => ¬ Country.TwoLetters code) codes code ∧ e = .country code := by
  rw [ofCodes, map_eq_error_iff, mapM_eq_error_iff_of fun _ _ => Country.ofCode_eq_error_iff]

end CountrySet

end GridOutage
