import GridOutage.Uuid
import Mathlib.Tactic.Ring

/-!
# UUIDs read back

The hyphenated form is read back to the same UUID: the hyphens are taken out where they were put
in, and 32 hex digits hold all of a number of 128 bits.
-/
namespace GridOutage.Uuid

theorem digit?_digitChar : ∀ d < 16, Text.digit? 16 (Nat.digitChar d) = some d := by decide

theorem length_hexDigits (value n : Nat) : (hexDigits value n).length = n := by
  induction n generalizing value with
  | zero => rfl
  | succ n ih => rw [hexDigits, List.length_append, ih]; rfl

/-- The digits hold the low part of the number. -/
theorem foldlM_hexDigits (value n high : Nat) :
    (hexDigits value n).foldlM (fun x c => (Text.digit? 16 c).map (16 * x + ·)) high =
      some (high * 16 ^ n + value % 16 ^ n) := by
  induction n generalizing value with
  | zero =>
    rw [pow_zero, Nat.mod_one, Nat.mul_one]
    rfl
  | succ n ih =>
    have hsplit : value % 16 ^ (n + 1) = value % 16 + 16 * (value / 16 % 16 ^ n) := by
      rw [pow_succ', Nat.mod_mul]
    rw [hexDigits, List.foldlM_append, ih, hsplit]
    change (Text.digit? 16 (Nat.digitChar (value % 16))).map _ >>= _ = _
    rw [digit?_digitChar _ (Nat.mod_lt _ (by decide))]
    change some _ = some _
    congr 1
    ring

theorem natural?_hexDigits (value n : Nat) :
    Text.natural? 16 (hexDigits value (n + 1)) = some (value % 16 ^ (n + 1)) := by
  have hne : (hexDigits value (n + 1)).isEmpty = false := by
    rw [List.isEmpty_eq_false_iff, ← List.length_pos_iff, length_hexDigits]
    exact Nat.succ_pos n
  rw [Text.natural?, hne, if_neg Bool.false_ne_true, foldlM_hexDigits, Nat.zero_mul, Nat.zero_add]

/-- Hyphens between groups of their lengths are taken out. -/
theorem unhyphenate?_groups {a b c d e : List Char} (ha : a.length = 8) (hb : b.length = 4)
    (hc : c.length = 4) (hd : d.length = 4) (he : e.length = 12) :
    unhyphenate? (a ++ '-' :: b ++ '-' :: c ++ '-' :: d ++ '-' :: e) =
      some (a ++ b ++ c ++ d ++ e) := by
  unfold unhyphenate?
  rw [if_pos ?hyphens]
  case hyphens => simp [ha, hb, hc, hd, he]
  simp (disch := omega) [List.drop_append, List.drop_eq_nil_of_le, ha, hb, hc, hd]

theorem unhyphenate?_chars (u : Uuid) : unhyphenate? u.chars = some (hexDigits u.value 32) := by
  have hlength := length_hexDigits u.value 32
  unfold chars
  generalize hexDigits u.value 32 = ds at hlength ⊢
  dsimp only
  rw [unhyphenate?_groups (by simp [hlength]) (by simp [hlength]) (by simp [hlength])
    (by simp [hlength]) (by simp [hlength])]
  have hjoin (i n : Nat) : (ds.drop i).take n ++ ds.drop (i + n) = ds.drop i := by
    rw [← List.drop_drop, List.take_append_drop]
  rw [List.append_assoc, List.append_assoc, List.append_assoc, hjoin 16 4, hjoin 12 4, hjoin 8 4,
    List.take_append_drop]

theorem length_chars (u : Uuid) : u.chars.length = 36 := by
  simp [chars, length_hexDigits]

theorem ofNat_value (u : Uuid) : ofNat u.value = u := by
  obtain ⟨value⟩ := u
  have hmod : value.val % count = value.val := Nat.mod_eq_of_lt value.isLt
  unfold ofNat
  simp only [hmod]

/-- The digits of a UUID are all of its number. -/
theorem natural?_digits (u : Uuid) : Text.natural? 16 (hexDigits u.value 32) = some u.value.val := by
  have hlt : u.value.val < 16 ^ 32 := u.value.isLt
  rw [natural?_hexDigits, Nat.mod_eq_of_lt hlt]

/-- Every UUID is read back from its text. -/
theorem ofText?_toText (u : Uuid) : ofText? u.toText = some u := by
  have hdigits : digits? u.chars = some (hexDigits u.value 32) := by
    have hlength := u.length_chars
    unfold digits?
    rw [if_neg (by omega), if_neg (by omega), if_neg (by omega), unhyphenate?_chars]
  unfold ofText? toText
  rw [String.toList_ofList, hdigits, Option.bind_eq_bind, Option.bind_some, natural?_digits,
    Option.bind_eq_bind, Option.bind_some, ofNat_value]

end GridOutage.Uuid
