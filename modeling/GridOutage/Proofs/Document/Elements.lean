import GridOutage.Document.Elements
import GridOutage.Proofs.Document.Record

/-!
# Countries and types read back

Codes of countries and names of types are read leniently: blanks around them and the case of letters
do not matter, and a country is kept once. What is written is read back as it was, the order
of countries included.
-/
namespace GridOutage

open Document Outcome

/-! ## Countries -/

namespace Country

theorem isBlank_letter (i : Fin 26) : Text.isBlank (letter i) = false := by
  revert i
  decide

theorem ofText?_code (c : Country) : ofText? c.code = some c := by
  have htrim : Text.trimChars c.chars = c.chars := by
    simp [Text.trimChars, chars, isBlank_letter]
  unfold ofText? code
  rw [String.toList_ofList, htrim]
  simp only [chars, place?_letter]
  rfl

theorem ofCode_code (c : Country) : ofCode c.code = .ok c := by
  rw [ofCode, ofText?_code]

end Country

namespace CountrySet

theorem ext {s t : CountrySet} (h : s.members = t.members) : s = t := by
  cases s
  cases t
  cases h
  rfl

/-- Countries that are not in a set are added to it in their order. -/
theorem members_foldl_insert {s : CountrySet} {cs : List Country} (h : (s.members ++ cs).Nodup) :
    (cs.foldl insert s).members = s.members ++ cs := by
  induction cs generalizing s with
  | nil => exact (List.append_nil _).symm
  | cons c cs ih =>
    have hc : c ∉ s.members := by
      intro hmem
      exact (List.nodup_append.1 h).2.2 c hmem c List.mem_cons_self rfl
    have hinsert : (s.insert c).members = s.members ++ [c] := by
      rw [insert, dif_neg hc]
    have happend : s.members ++ c :: cs = (s.insert c).members ++ cs := by
      rw [hinsert, List.append_assoc, List.singleton_append]
    rw [happend] at h ⊢
    exact ih h

theorem ofList_members (s : CountrySet) : ofList s.members = s :=
  ext (members_foldl_insert (s := empty) s.nodup)

theorem ofCodes_codes (s : CountrySet) : ofCodes s.codes = .ok s := by
  have hmembers : s.codes.mapM Country.ofCode = .ok s.members := by
    rw [codes, mapM_eq_ok_iff, List.forall₂_map_left_iff, List.forall₂_same]
    exact fun c _ => Country.ofCode_code c
  rw [ofCodes, hmembers]
  exact congrArg Except.ok s.ofList_members

theorem written_encode (s : CountrySet) {p : Binary64 → Prop} (n : Nat) : s.encode.Written p (n + 1) :=
  .texts s.codes

/-- The codes of a set that is left out when it is empty. -/
theorem reads_codes {s : CountrySet} {entries : List (String × Value)} {name : String}
    (h : entries.lookup name = if s.isEmpty then none else some s.encode) :
    (Row.defaulted name (list text) []).Reads entries s.codes := by
  have hempty : s.codes.isEmpty = s.isEmpty := List.isEmpty_map
  exact .texts (by rw [hempty]; exact h)

end CountrySet

/-! ## Types -/

theorem EquipmentType.ofName_name (t : EquipmentType) : ofName t.name = .ok t := by
  cases t <;> decide

end GridOutage
