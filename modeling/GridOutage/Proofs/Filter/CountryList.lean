import GridOutage.Error
import GridOutage.Proofs.Country
import GridOutage.Proofs.Document.Elements
import GridOutage.Proofs.Filter.Literal
import GridOutage.Proofs.Filter.Selection

/-!
# Sets of countries in the order of their codes

A set made of codes lists the codes in capitals, without the blanks around them, each once and in
the order in which they first occur: the codes of the set are the `eraseDups` of the normal forms
(`CountrySet.codes_eq`). Sets are the same when they have the same members, so the order of the
codes shows only where a set is written.

`LiteralList` reads a list of literals in brackets and knows nothing of countries. A written set is
read as the list of its codes (`literalList_countryList_iff`), and these make the set again.
-/
namespace GridOutage

open Outcome
open GridOutage.Filter (readLiteral quoted joined countryList)

/-! ## Lists without repetition -/

section

variable {α β : Type} [BEq α] [LawfulBEq α] [BEq β] [LawfulBEq β]

theorem eraseDups_concat_of_mem {l : List α} {a : α} (h : a ∈ l) :
    (l ++ [a]).eraseDups = l.eraseDups := by
  have hnone : [a].removeAll l = [] := by simp [List.removeAll, h]
  rw [List.eraseDups_append, hnone, List.eraseDups_nil, List.append_nil]

theorem eraseDups_concat_of_not_mem {l : List α} {a : α} (h : a ∉ l) :
    (l ++ [a]).eraseDups = l.eraseDups ++ [a] := by
  have hone : [a].removeAll l = [a] := by simp [List.removeAll, h]
  rw [List.eraseDups_append, hone, List.eraseDups_cons, List.filter_nil, List.eraseDups_nil]

theorem eraseDups_map {f : α → β} (hf : Function.Injective f) (l : List α) :
    (l.map f).eraseDups = l.eraseDups.map f := by
  induction l using List.reverseRecOn with
  | nil => rfl
  | append_singleton l a ih =>
    have hmem : f a ∈ l.map f ↔ a ∈ l := List.mem_map_of_injective hf
    rw [List.map_append, List.map_singleton]
    by_cases h : a ∈ l
    · rw [eraseDups_concat_of_mem (hmem.2 h), eraseDups_concat_of_mem h, ih]
    · rw [eraseDups_concat_of_not_mem (mt hmem.1 h), eraseDups_concat_of_not_mem h, ih,
        List.map_append, List.map_singleton]

end

/-! ## Codes -/

namespace Country

/-- A text without the blanks around it, in capitals. -/
def normalCode (s : String) : String := String.ofList ((Text.trim s).toList.map Char.toUpper)

theorem normalCode_of_spells {s : String} {c : Country} (h : Text.Spells s c.chars) :
    normalCode s = c.code := by
  rw [normalCode, Text.trim, String.toList_ofList, Text.spells_iff.1 h, code]

theorem code_injective : Function.Injective code :=
  fun _ _ h => chars_injective (String.ofList_injective h)

end Country

namespace CountrySet

theorem members_insert (s : CountrySet) (c : Country) :
    (s.insert c).members = if c ∈ s.members then s.members else s.members ++ [c] := by
  unfold insert
  split <;> rfl

theorem members_ofList (cs : List Country) : (ofList cs).members = cs.eraseDups := by
  induction cs using List.reverseRecOn with
  | nil => rfl
  | append_singleton cs c ih =>
    have hstep : ofList (cs ++ [c]) = (ofList cs).insert c := List.foldl_append
    rw [hstep, members_insert, ih]
    by_cases h : c ∈ cs
    · rw [if_pos (List.mem_eraseDups.2 h), eraseDups_concat_of_mem h]
    · rw [if_neg (mt List.mem_eraseDups.1 h), eraseDups_concat_of_not_mem h]

theorem codes_nodup (s : CountrySet) : s.codes.Nodup := s.nodup.map Country.code_injective

/-- Sets are determined by their codes. -/
theorem codes_injective : Function.Injective codes :=
  fun _ _ h => ext (List.map_injective_iff.2 Country.code_injective h)

theorem exists_error_iff {codes : List String} :
    (∃ e, ofCodes codes = .error e) ↔ ∃ code ∈ codes, ¬ Country.TwoLetters code := by
  rw [← exists_first_iff]
  simp only [ofCodes_eq_error_iff]
  constructor
  · rintro ⟨_, code, hfirst, -⟩
    exact ⟨code, hfirst⟩
  · rintro ⟨code, hfirst⟩
    exact ⟨_, code, hfirst, rfl⟩

theorem codes_eq {codes : List String} {s : CountrySet} (h : ofCodes codes = .ok s) :
    s.codes = (codes.map Country.normalCode).eraseDups := by
  obtain ⟨cs, hspells, rfl⟩ := ofCodes_eq_ok_iff.1 h
  have hcodes : codes.map Country.normalCode = cs.map Country.code := by
    clear h
    induction hspells with
    | nil => rfl
    | cons hc _ ih => rw [List.map_cons, List.map_cons, Country.normalCode_of_spells hc, ih]
  rw [hcodes, eraseDups_map Country.code_injective, CountrySet.codes, members_ofList]

theorem ofCodes_eq_ok_iff_codes {codes : List String} {s : CountrySet} :
    ofCodes codes = .ok s ↔ (∀ code ∈ codes, Country.TwoLetters code) ∧
      s.codes = (codes.map Country.normalCode).eraseDups := by
  constructor
  · intro h
    refine ⟨fun code hcode => ?_, codes_eq h⟩
    by_contra hno
    obtain ⟨e, he⟩ := exists_error_iff.2 ⟨code, hcode, hno⟩
    cases h.symm.trans he
  · rintro ⟨hall, hcodes⟩
    cases hresult : ofCodes codes with
    | error e =>
      obtain ⟨code, hcode, hno⟩ := exists_error_iff.1 ⟨e, hresult⟩
      exact absurd (hall code hcode) hno
    | ok t => rw [codes_injective (hcodes.trans (codes_eq hresult).symm)]

theorem mem_codes {s : CountrySet} {c : Country} : c.code ∈ s.codes ↔ c ∈ s.members :=
  List.mem_map_of_injective Country.code_injective

theorem same_iff_codes {s t : CountrySet} :
    s.same t = true ↔ ∀ x, x ∈ s.codes ↔ x ∈ t.codes := by
  rw [Filter.CountrySet.same_iff]
  constructor
  · intro h x
    simp only [codes, List.mem_map, h]
  · intro h c
    rw [← mem_codes, ← mem_codes, h]

/-- Sets made of codes are the same when the codes have the same normal forms, in any order. -/
theorem same_iff_normalCode {codes codes' : List String} {s t : CountrySet}
    (hs : ofCodes codes = .ok s) (ht : ofCodes codes' = .ok t) :
    s.same t = true ↔
      ∀ x, x ∈ codes.map Country.normalCode ↔ x ∈ codes'.map Country.normalCode := by
  simp only [same_iff_codes, codes_eq hs, codes_eq ht, List.mem_eraseDups]

theorem exists_same_of_perm {codes codes' : List String} {s : CountrySet}
    (h : ofCodes codes = .ok s) (hperm : codes'.Perm codes) :
    ∃ t, ofCodes codes' = .ok t ∧ s.same t = true := by
  cases ht : ofCodes codes' with
  | error e =>
    obtain ⟨code, hcode, hno⟩ := exists_error_iff.1 ⟨e, ht⟩
    exact absurd ((ofCodes_eq_ok_iff_codes.1 h).1 code (hperm.mem_iff.1 hcode)) hno
  | ok t =>
    exact ⟨t, rfl, (same_iff_normalCode h ht).2 fun x => (hperm.map _).mem_iff.symm⟩

end CountrySet

/-! ## Lists of literals -/

namespace Filter

/-- The literals of a list up to its closing bracket, and what follows it. -/
inductive Literals : List Char → List String → List Char → Prop
  | last {cs t rest : List Char} (h : readLiteral cs = some (t, ']' :: rest)) :
      Literals cs [String.ofList t] rest
  | more {cs t cs' rest : List Char} {ts : List String} (h : readLiteral cs = some (t, ',' :: cs'))
      (hts : Literals cs' ts rest) : Literals cs (String.ofList t :: ts) rest

/-- A list of literals in brackets with commas between them, and what follows the list. -/
inductive LiteralList : List Char → List String → List Char → Prop
  | empty {rest : List Char} : LiteralList ('[' :: ']' :: rest) [] rest
  | literals {cs rest : List Char} {ts : List String} (h : Literals cs ts rest) :
      LiteralList ('[' :: cs) ts rest

theorem Literals.unique {cs r s : List Char} {ts us : List String} (ht : Literals cs ts r)
    (hu : Literals cs us s) : ts = us ∧ r = s := by
  induction ht generalizing us with
  | last h =>
    cases hu with
    | last h' =>
      obtain ⟨rfl, htail⟩ := Prod.mk.inj (Option.some.inj (h.symm.trans h'))
      exact ⟨rfl, (List.cons.inj htail).2⟩
    | more h' _ =>
      obtain ⟨-, htail⟩ := Prod.mk.inj (Option.some.inj (h.symm.trans h'))
      exact absurd (List.cons.inj htail).1 (by decide)
  | more h _ ih =>
    cases hu with
    | last h' =>
      obtain ⟨-, htail⟩ := Prod.mk.inj (Option.some.inj (h.symm.trans h'))
      exact absurd (List.cons.inj htail).1 (by decide)
    | more h' hrest =>
      obtain ⟨rfl, htail⟩ := Prod.mk.inj (Option.some.inj (h.symm.trans h'))
      obtain ⟨rfl, hrs⟩ := ih ((List.cons.inj htail).2 ▸ hrest)
      exact ⟨rfl, hrs⟩

theorem LiteralList.unique {cs r s : List Char} {ts us : List String} (ht : LiteralList cs ts r)
    (hu : LiteralList cs us s) : ts = us ∧ r = s := by
  -- A closing bracket starts no literal.
  have hclosed {rest r : List Char} {ts : List String} : ¬ Literals (']' :: rest) ts r := by
    rintro (h | ⟨h, -⟩) <;> cases h
  cases ht with
  | empty =>
    cases hu with
    | empty => exact ⟨rfl, rfl⟩
    | literals h => exact absurd h hclosed
  | literals ht =>
    cases hu with
    | empty => exact absurd ht hclosed
    | literals hu => exact ht.unique hu

theorem literals_joined (t : List Char) (ts : List (List Char)) (rest : List Char) :
    Literals (joined [','] ((t :: ts).map quoted) ++ ']' :: rest) ((t :: ts).map String.ofList)
      rest := by
  induction ts generalizing t with
  | nil => exact .last (readLiteral_quoted t _)
  | cons u ts ih =>
    rw [List.map_cons, joined_cons, List.map_cons]
    exact .more (readLiteral_quoted t _) (ih u)

/-- A written set is read as the list of its codes. -/
theorem literalList_countryList (s : CountrySet) (rest : List Char) :
    LiteralList (countryList s ++ rest) s.codes rest := by
  have hlist : countryList s ++ rest =
      '[' :: (joined [','] ((s.members.map Country.chars).map quoted) ++ ']' :: rest) := by
    simp [countryList, Function.comp_def]
  have hcodes : s.codes = (s.members.map Country.chars).map String.ofList := by
    rw [List.map_map]
    rfl
  rw [hlist, hcodes]
  cases s.members.map Country.chars with
  | nil => exact .empty
  | cons t ts => exact .literals (literals_joined t ts rest)

/-- The set that a written set is read as is that set, and nothing after the list is read. -/
theorem countryList_reads_iff {s t : CountrySet} {rest r : List Char} :
    (∃ codes, LiteralList (countryList s ++ rest) codes r ∧ CountrySet.ofCodes codes = .ok t) ↔
      t = s ∧ r = rest := by
  constructor
  · rintro ⟨codes, hread, hset⟩
    obtain ⟨rfl, rfl⟩ := hread.unique (literalList_countryList s rest)
    rw [CountrySet.ofCodes_codes] at hset
    exact ⟨(Except.ok.inj hset).symm, rfl⟩
  · rintro ⟨rfl, rfl⟩
    exact ⟨t.codes, literalList_countryList t r, t.ofCodes_codes⟩

end Filter

/-! ## Ordered sets -/

namespace CountrySet

theorem message_country (code : String) : (Error.rejected (.country code)).message? =
    some ("Configuration error: invalid country code '" ++ code ++
      "'; expected two ASCII letters") := by
  have hlead : "Configuration error: invalid country code '" =
      "Configuration error: " ++ "invalid country code '" := by decide
  have htext : (Filter.Rejection.country code).text =
      "invalid country code '" ++ (code ++ "'; expected two ASCII letters") := String.append_assoc
  rw [hlead, String.append_assoc, String.append_assoc, ← htext]
  rfl

/-- A list of codes is refused exactly when one of them is no code, and the first such code is told
as it stands. Otherwise the set lists the codes in capitals and without the blanks around them, each
once, in the order in which they first occur. The set is made again of its own codes and read back
from where it is written. The same codes in another order make the same set. -/
theorem codes_in_order (codes : List String) :
    (∀ e, ofCodes codes = .error e ↔
      ∃ code, First (fun code => ¬ Country.TwoLetters code) codes code ∧ e = .country code ∧
        (Error.rejected e).message? = some ("Configuration error: invalid country code '" ++ code ++
          "'; expected two ASCII letters")) ∧
    ((∃ e, ofCodes codes = .error e) ↔ ∃ code ∈ codes, ¬ Country.TwoLetters code) ∧
    (∀ s, ofCodes codes = .ok s ↔ (∀ code ∈ codes, Country.TwoLetters code) ∧
      s.codes = (codes.map Country.normalCode).eraseDups) ∧
    ∀ s, ofCodes codes = .ok s →
      s.codes.Nodup ∧ ofCodes s.codes = .ok s ∧
      (∀ rest t r, (∃ read, Filter.LiteralList (countryList s ++ rest) read r ∧
        ofCodes read = .ok t) ↔ t = s ∧ r = rest) ∧
      (∀ codes' t, ofCodes codes' = .ok t → (s.same t = true ↔
        ∀ x, x ∈ codes.map Country.normalCode ↔ x ∈ codes'.map Country.normalCode)) ∧
      ∀ codes' : List String, codes'.Perm codes →
        ∃ t, ofCodes codes' = .ok t ∧ s.same t = true := by
  refine ⟨fun e => ?_, exists_error_iff, fun s => ofCodes_eq_ok_iff_codes, fun s hs => ?_⟩
  · rw [ofCodes_eq_error_iff]
    refine exists_congr fun code => and_congr_right fun _ => ⟨?_, And.left⟩
    rintro rfl
    exact ⟨rfl, message_country code⟩
  · exact ⟨s.codes_nodup, s.ofCodes_codes, fun rest t r => Filter.countryList_reads_iff,
      fun codes' t ht => same_iff_normalCode hs ht,
      fun codes' hperm => exists_same_of_perm hs hperm⟩

/-- France twice around Belgium, in small letters and with a no-break space. -/
def franceTwice : List String := ["fr", "\u00A0BE ", "FR"]

theorem codes_in_order_twice :
    ∃ s, ofCodes franceTwice = .ok s ∧ s.codes = ["FR", "BE"] ∧ ofCodes s.codes = .ok s ∧
      (∃ read, Filter.LiteralList (countryList s ++ [')']) read [')'] ∧ ofCodes read = .ok s) ∧
      ∃ t, ofCodes ["\u00A0BE ", "FR", "fr"] = .ok t ∧ s.same t = true := by
  have hs : ofCodes franceTwice = .ok (ofList (["FR", "BE"].filterMap Country.ofText?)) := by
    decide +kernel
  obtain ⟨-, -, hok, h⟩ := codes_in_order franceTwice
  obtain ⟨-, hagain, hread, -, hperm⟩ := h _ hs
  refine ⟨_, hs, ?_, hagain, (hread [')'] _ [')']).2 ⟨rfl, rfl⟩, hperm _ (by decide)⟩
  rw [((hok _).1 hs).2]
  decide +kernel

end CountrySet

end GridOutage
