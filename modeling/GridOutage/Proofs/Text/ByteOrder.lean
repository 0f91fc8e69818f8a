import Mathlib.Data.String.Basic

/-!
# Texts in the order of their bytes

Texts are ordered by the bytes that they are stored as, in UTF-8. `bytes_lt_iff` says that this is
the order by code points.

A character is a lead byte, which tells how many bytes follow, and bytes of six bits each
(`encoded_eq`). Of two characters the one with the smaller code point has the smaller lead byte or,
where these are the same, the smaller byte where the rest first differs. So encodings part before
either ends, and what follows a character does not matter (`encoded_lt`).
-/
namespace GridOutage.Text

open String (utf8EncodeChar)

/-! ## Characters -/

/-- How many bytes follow the first of a code point. -/
def following (n : Nat) : Nat :=
  if n ≤ 127 then 0 else if n ≤ 2047 then 1 else if n ≤ 65535 then 2 else 3

/-- The first byte of a code point. -/
def leadByte (n : Nat) : Nat :=
  if n ≤ 127 then n
  else if n ≤ 2047 then n / 64 % 32 + 192
  else if n ≤ 65535 then n / 4096 % 16 + 224
  else n / 262144 % 8 + 240

/-- The low bits of a number, six in each byte. -/
def sixBits : Nat → Nat → List UInt8
  | 0, _ => []
  | k + 1, n => sixBits k (n / 64) ++ [UInt8.ofNat (n % 64 + 128)]

theorem encoded_eq (c : Char) :
    utf8EncodeChar c =
      UInt8.ofNat (leadByte c.val.toNat) :: sixBits (following c.val.toNat) c.val.toNat := by
  unfold utf8EncodeChar leadByte following
  generalize c.val.toNat = n
  dsimp only
  split_ifs <;> simp [sixBits, Nat.div_div_eq_div_mul]

/-- Code points end before `0x110000`. -/
theorem codePoint_lt (c : Char) : c.val.toNat < 0x110000 := by
  rcases c.valid with h | ⟨-, h⟩
  · exact h.trans (by decide)
  · exact h

theorem leadByte_lt {n : Nat} (hn : n < 0x110000) : leadByte n < UInt8.size := by
  have hsize : UInt8.size = 256 := rfl
  unfold leadByte
  split_ifs <;> omega

/-- The lead byte grows with the code point, unless it and the bits in it are the same. -/
theorem leadByte_lt_or {m n : Nat} (h : m < n) (hn : n < 0x110000) :
    leadByte m < leadByte n ∨
      leadByte m = leadByte n ∧ following m = following n ∧
        m / 64 ^ following n = n / 64 ^ following n := by
  unfold leadByte following
  split_ifs <;> omega

theorem sixBits_lt {k m n : Nat} (h : m < n) (hhigh : m / 64 ^ k = n / 64 ^ k) (xs ys : List UInt8) :
    sixBits k m ++ xs < sixBits k n ++ ys := by
  induction k generalizing m n xs ys with
  | zero =>
    simp only [pow_zero, Nat.div_one] at hhigh
    omega
  | succ k ih =>
    simp only [sixBits, List.append_assoc]
    rcases Nat.lt_or_ge (m / 64) (n / 64) with hlt | hge
    · refine ih hlt ?_ _ _
      rwa [pow_succ', ← Nat.div_div_eq_div_mul, ← Nat.div_div_eq_div_mul] at hhigh
    · -- Only the last six bits differ.
      have hsame : m / 64 = n / 64 := by omega
      have hlast : UInt8.ofNat (m % 64 + 128) < UInt8.ofNat (n % 64 + 128) := by
        rw [UInt8.ofNat_lt_iff_lt (by simp only [UInt8.size]; omega)
          (by simp only [UInt8.size]; omega)]
        omega
      rw [hsame]
      exact List.append_left_lt (List.cons_lt_cons_iff.2 (.inl hlast))

/-- The encodings of two characters part in the order of their code points, whatever follows. -/
theorem encoded_lt {c d : Char} (h : c < d) (xs ys : List UInt8) :
    utf8EncodeChar c ++ xs < utf8EncodeChar d ++ ys := by
  have hcode : c.val.toNat < d.val.toNat := h
  rw [encoded_eq, encoded_eq, List.cons_append, List.cons_append, List.cons_lt_cons_iff]
  rcases leadByte_lt_or hcode (codePoint_lt d) with hlead | ⟨hlead, hfollowing, hhigh⟩
  · exact .inl ((UInt8.ofNat_lt_iff_lt (leadByte_lt (codePoint_lt c))
      (leadByte_lt (codePoint_lt d))).2 hlead)
  · rw [hlead, hfollowing]
    exact .inr ⟨rfl, sixBits_lt hcode hhigh xs ys⟩

/-! ## Texts -/

/-- The bytes of a text in UTF-8. -/
def bytes (s : String) : List UInt8 := s.toByteArray.data.toList

theorem bytes_eq (s : String) : bytes s = s.toList.flatMap utf8EncodeChar := by
  rw [bytes, ← String.utf8Encode_toList, List.utf8Encode, List.data_toByteArray]

theorem flatMap_encoded_lt {cs ds : List Char} (h : cs < ds) :
    cs.flatMap utf8EncodeChar < ds.flatMap utf8EncodeChar := by
  induction cs generalizing ds with
  | nil =>
    cases ds with
    | nil => exact absurd h (List.not_lt_nil _)
    | cons d ds =>
      rw [List.flatMap_nil, List.flatMap_cons, encoded_eq]
      exact List.nil_lt_cons _ _
  | cons c cs ih =>
    cases ds with
    | nil => exact absurd h (List.not_lt_nil _)
    | cons d ds =>
      rw [List.flatMap_cons, List.flatMap_cons]
      rcases List.cons_lt_cons_iff.1 h with hcd | ⟨rfl, hrest⟩
      · exact encoded_lt hcd _ _
      · exact List.append_left_lt (ih hrest)

theorem bytes_lt_of_lt {s t : String} (h : s < t) : bytes s < bytes t := by
  rw [bytes_eq, bytes_eq]
  exact flatMap_encoded_lt (String.lt_iff_toList_lt.1 h)

theorem bytes_lt_iff {s t : String} : bytes s < bytes t ↔ s < t := by
  refine ⟨fun h => ?_, bytes_lt_of_lt⟩
  rcases lt_trichotomy s t with hlt | rfl | hgt
  · exact hlt
  · exact absurd h (List.lt_irrefl _)
  · exact absurd h (List.lt_asymm (bytes_lt_of_lt hgt))

end GridOutage.Text
