import GridOutage.Proofs.Binary64.Rounding
import Mathlib.Logic.Basic

/-!
# The order of binary64 numbers

Finite numbers are ordered in full (`lt_eq_false_iff`), and numbers that are the same as numbers,
the two zeros among them, are at one place in the order (`same_iff`): neither a comparison nor a
difference can tell them apart (`le_congr_right`, `sub_congr`). Two numbers are in order when the
first is below the second or the same (`le_iff_lt_or_same`), and finite ones that are the same differ
by zero (`sub_same`).
-/
namespace GridOutage.Binary64

/-- Numbers that are not below one another are in order. -/
theorem lt_eq_false_iff {a b : Binary64} (ha : a.isFinite = true) (hb : b.isFinite = true) :
    b.lt a = false ↔ a.le b = true := by
  cases a with
  | nan => cases ha
  | number s r =>
    cases b with
    | nan => cases hb
    | number t q => simp [lt, le]

/-- Numerically equal numbers are at the same place in the order. -/
theorem same_iff {a b : Binary64} :
    a.same b = true ↔
      ∃ s t r q, a = number s r ∧ b = number t q ∧ key s r.val = key t q.val := by
  cases a with
  | nan => simp [same, le]
  | number s r =>
    cases b with
    | nan => simp [same, le]
    | number t q =>
      simp only [same, le, Bool.and_eq_true, decide_eq_true_eq, ← Int.le_antisymm_iff]
      constructor
      · intro hkey
        exact ⟨s, t, r, q, rfl, rfl, hkey⟩
      · rintro ⟨s', t', r', q', ha, hb, hkey⟩
        cases ha
        cases hb
        exact hkey

theorem same_comm (a b : Binary64) : a.same b = b.same a := Bool.and_comm _ _

theorem same_self {a : Binary64} (ha : a.isFinite = true) : a.same a = true := by
  cases a with
  | nan => cases ha
  | number s r => simp [same, le]

/-- Only zero has two signs. -/
theorem rank_eq_of_key {s t : Bool} {r q : Nat} (h : key s r = key t q) :
    r = q ∧ (s = t ∨ r = 0) := by
  cases s <;> cases t <;>
    simp only [key, if_true, if_false, reduceCtorEq, true_or, false_or, and_true] at h ⊢ <;> omega

/-- Of two numbers one is below the other, unless they are the same. -/
theorem lt_or_same_or_lt {a b : Binary64} (ha : a ≠ nan) (hb : b ≠ nan) :
    a.lt b = true ∨ a.same b = true ∨ b.lt a = true := by
  cases a with
  | nan => exact absurd rfl ha
  | number s r =>
    cases b with
    | nan => exact absurd rfl hb
    | number t q =>
      simp only [lt, same, le, Bool.and_eq_true, decide_eq_true_eq]
      omega

theorem same_eq_false_of_lt {a b : Binary64} (h : a.lt b = true) : a.same b = false := by
  cases a with
  | nan => cases h
  | number s r =>
    cases b with
    | nan => cases h
    | number t q =>
      simp only [lt, same, le, Bool.and_eq_false_iff, decide_eq_true_eq, decide_eq_false_iff_not] at *
      omega

theorem le_iff_lt_or_same {a b : Binary64} :
    a.le b = true ↔ a.lt b = true ∨ a.same b = true := by
  cases a with
  | nan => simp [le, lt, same]
  | number s r =>
    cases b with
    | nan => simp [le, lt, same]
    | number t q =>
      simp only [lt, same, le, Bool.and_eq_true, decide_eq_true_eq]
      omega

section

variable {a b : Binary64} (h : a.same b = true)

include h

theorem le_congr_right (v : Binary64) : v.le a = v.le b := by
  obtain ⟨s, t, r, q, rfl, rfl, hkey⟩ := same_iff.1 h
  cases v <;> simp only [le, hkey]

theorem le_congr_left (v : Binary64) : a.le v = b.le v := by
  obtain ⟨s, t, r, q, rfl, rfl, hkey⟩ := same_iff.1 h
  cases v <;> simp only [le, hkey]

theorem lt_congr_right (v : Binary64) : v.lt a = v.lt b := by
  obtain ⟨s, t, r, q, rfl, rfl, hkey⟩ := same_iff.1 h
  cases v <;> simp only [lt, hkey]

theorem lt_congr_left (v : Binary64) : a.lt v = b.lt v := by
  obtain ⟨s, t, r, q, rfl, rfl, hkey⟩ := same_iff.1 h
  cases v <;> simp only [lt, hkey]

/-- The difference does not see the sign of a zero that is taken away. -/
theorem sub_congr (v : Binary64) : v.sub a = v.sub b := by
  obtain ⟨s, t, r, q, rfl, rfl, hkey⟩ := same_iff.1 h
  obtain ⟨hrank, hsign⟩ := rank_eq_of_key hkey
  obtain rfl := Fin.ext hrank
  rcases hsign with rfl | hzero
  · rfl
  · have hfinite : r.val ≠ topRank := by
      rw [hzero]
      decide
    have hunits : ∀ sign, signedUnits sign r = 0 := by
      intro sign
      cases sign <;> simp [signedUnits, scaled, hzero, binade]
    cases v with
    | nan => rfl
    | number u p => simp [sub, hfinite, hunits]

theorem isFinite_congr : a.isFinite = b.isFinite := by
  obtain ⟨s, t, r, q, rfl, rfl, hkey⟩ := same_iff.1 h
  obtain ⟨hrank, -⟩ := rank_eq_of_key hkey
  simp only [isFinite, hrank]

end

theorem sub_self {a : Binary64} (ha : a.isFinite = true) : a.sub a = zero := by
  cases a with
  | nan => cases ha
  | number s r =>
    have hfinite : r.val ≠ topRank := Nat.ne_of_lt (of_decide_eq_true ha)
    have hrank : nearestRank 0 one = 0 := by
      apply nearestRank_small
      rw [Nat.zero_mul]
      exact one_pos
    simp [sub, hfinite, hrank, zero]

theorem sub_same {a b : Binary64} (hb : b.isFinite = true) (h : a.same b = true) :
    a.sub b = zero := by
  rw [← sub_congr h, sub_self (isFinite_congr h ▸ hb)]

end GridOutage.Binary64
