import GridOutage.Document.Json
import GridOutage.Document.JsonText
import GridOutage.Proofs.Binary64.NumberText

/-!
# Numbers of JSON read back

A number text is put together of `Parts`: digits, digits after a point, an exponent. The reader
takes such a text apart again where it ends (`number?_text`), and the writer writes a finite
magnitude as such a text, never as a whole number (`exists_parts`). So the text is read as a number,
but not always as the one that was written: the reader rounds more than once. `reread` is what it
makes of a number's text.

* `reading_eq`: with at most fifteen digits and without an exponent it is the number that was written.
-/
namespace GridOutage.Document.Json

open Binary64 (AllDigits Decimal Layout ofRank topRank)

/-- No number goes on with these characters. -/
def NumberEnds (rest : List Char) : Prop :=
  ∀ c ∈ rest.head?, c.isDigit = false ∧ c ≠ '.' ∧ c ≠ 'e' ∧ c ≠ 'E'

theorem numberEnds_cons {c : Char} (h : c.isDigit = false ∧ c ≠ '.' ∧ c ≠ 'e' ∧ c ≠ 'E')
    (rest : List Char) : NumberEnds (c :: rest) := by
  intro d hd
  obtain rfl : c = d := Option.some.inj hd
  exact h

/-! ## Digits -/

theorem digits_append {ds rest : List Char} (hds : AllDigits ds)
    (hrest : ∀ c ∈ rest.head?, c.isDigit = false) : digits (ds ++ rest) = (ds, rest) := by
  unfold digits
  rw [(hds.span hrest).1, (hds.span hrest).2]

theorem digit?_of_isDigit {c : Char} (h : c.isDigit = true) :
    Text.digit? 10 c = some (c.toNat - '0'.toNat) := by
  have hle : '0' ≤ c ∧ c ≤ '9' := Char.isDigit_iff_toNat.1 h
  have hlast : c.toNat ≤ '9'.toNat := (Char.isDigit_iff_toNat.1 h).2
  have h0 : '0'.toNat = 48 := rfl
  have h9 : '9'.toNat = 57 := rfl
  unfold Text.digit?
  rw [if_pos hle, if_pos (by omega)]

theorem digitsValue_eq {ds : List Char} (h : AllDigits ds) :
    digitsValue ds = Nat.ofDigitChars 10 ds 0 := by
  have hfold (n : Nat) :
      ds.foldlM (fun n c => (Text.digit? 10 c).map (10 * n + ·)) n = some (Nat.ofDigitChars 10 ds n) := by
    induction ds generalizing n with
    | nil => rfl
    | cons c ds ih =>
      obtain ⟨hc, hds⟩ := List.forall_mem_cons.1 h
      rw [List.foldlM_cons, digit?_of_isDigit hc]
      exact ih hds _
  cases ds with
  | nil => rfl
  | cons c ds =>
    unfold digitsValue Text.natural?
    rw [hfold]
    rfl

theorem head_toDigits {n : Nat} (h : n ≠ 0) : (Nat.toDigits 10 n).head? ≠ some '0' := by
  induction n using Nat.strongRecOn with
  | ind n ih =>
    by_cases hlt : n < 10
    · have hdigit : ∀ n < 10, n ≠ 0 → [Nat.digitChar n].head? ≠ some '0' := by decide
      rw [Nat.toDigits_of_lt_base hlt]
      exact hdigit n hlt h
    · have hhead : (Nat.toDigits 10 (n / 10)).head?.isSome = true := by
        simp [Nat.toDigits_ne_nil]
      rw [Nat.toDigits_of_base_le (by decide) (by omega), List.head?_append,
        Option.or_of_isSome hhead]
      exact ih _ (by omega) (by omega)

/-! ## Parts -/

/-- The parts of a number text. -/
structure Parts where
  whole : List Char
  fraction : List Char
  exponent : Option Int

namespace Parts

/-- Digits, the first of several not a zero, and more digits. -/
structure WellFormed (p : Parts) : Prop where
  whole_digits : AllDigits p.whole
  whole_ne_nil : p.whole ≠ []
  leading : p.whole.head? = some '0' → p.whole.length = 1
  fraction_digits : AllDigits p.fraction

def fractionText (p : Parts) : List Char := if p.fraction = [] then [] else '.' :: p.fraction

def exponentText (p : Parts) : List Char := p.exponent.elim [] fun e => 'e' :: (toString e).toList

def text (p : Parts) : List Char := p.whole ++ (p.fractionText ++ p.exponentText)

/-- The decimal that the parts denote. -/
def decimal (p : Parts) : Decimal :=
  ⟨Nat.ofDigitChars 10 (p.whole ++ p.fraction) 0, p.exponent.getD 0 - p.fraction.length⟩

theorem WellFormed.decimalOf_text {p : Parts} (h : p.WellFormed) :
    Binary64.decimalOf p.text = p.decimal := by
  obtain ⟨whole, fraction, exponent⟩ := p
  have hw := h.whole_digits
  have hf := h.fraction_digits
  have hmantissa : Binary64.decimalOf (whole ++ fractionText ⟨whole, fraction, exponent⟩) =
      ⟨Nat.ofDigitChars 10 (whole ++ fraction) 0, -fraction.length⟩ := by
    unfold fractionText
    split
    · next hnil =>
      obtain rfl : fraction = [] := hnil
      simp [Binary64.decimalOf_whole hw]
    · exact Binary64.decimalOf_point hw hf
  cases exponent with
  | none =>
    change Binary64.decimalOf (whole ++ (fractionText _ ++ [])) = _
    rw [List.append_nil, hmantissa]
    simp [decimal]
  | some e =>
    have he : 'e' ∉ whole ++ fractionText ⟨whole, fraction, some e⟩ := by
      have h1 := hw.not_mem (x := 'e') (by decide)
      have h2 := hf.not_mem (x := 'e') (by decide)
      unfold fractionText
      split <;> simp_all
    change Binary64.decimalOf (whole ++ (fractionText _ ++ 'e' :: (toString e).toList)) = _
    rw [← List.append_assoc, Binary64.decimalOf_exponent he, hmantissa]
    have hexp : -(fraction.length : Int) + e = e - fraction.length := by omega
    change (⟨_, -(fraction.length : Int) + e⟩ : Decimal) = _
    rw [hexp]
    rfl

end Parts

/-! ## Reading -/

section

variable {rest : List Char}

/-- The sign of an exponent and what follows it. -/
def exponentSign : List Char → Bool × List Char
  | '-' :: r => (true, r)
  | '+' :: r => (false, r)
  | r => (false, r)

theorem exponentSign_digit {d : Char} (hd : d.isDigit = true) (r : List Char) :
    exponentSign (d :: r) = (false, d :: r) := by
  unfold exponentSign
  split
  · next heq =>
    obtain ⟨rfl, -⟩ := List.cons.inj heq
    cases hd
  · next heq =>
    obtain ⟨rfl, -⟩ := List.cons.inj heq
    cases hd
  · rfl

/-- The digits after the sign of an exponent end the number. -/
theorem exponent?_of_sign {r ds : List Char} {negative : Bool}
    (hr : exponentSign r = (negative, ds ++ rest)) (hds : AllDigits ds) (hne : ds ≠ [])
    (hrest : ∀ c ∈ rest.head?, c.isDigit = false) :
    exponent? ('e' :: r) =
      some (some (if negative then -(digitsValue ds : Int) else digitsValue ds), rest) := by
  change (let d := digits (exponentSign r).2
    if d.1.isEmpty then none
    else some (some (if (exponentSign r).1 then -(digitsValue d.1 : Int) else digitsValue d.1),
      d.2)) = _
  rw [hr, digits_append hds hrest]
  exact if_neg (by simpa using hne)

/-- The exponent of a text ends where its digits end. -/
theorem exponent?_toString (e : Int) (hrest : ∀ c ∈ rest.head?, c.isDigit = false) :
    exponent? ('e' :: ((toString e).toList ++ rest)) = some (some e, rest) := by
  have hvalue (n : Nat) : digitsValue (Nat.toDigits 10 n) = n := by
    rw [digitsValue_eq (Binary64.allDigits_toDigits n), Nat.ofDigitChars_ten_toDigits]
  have hread {r : List Char} {negative : Bool} {n : Nat}
      (hr : exponentSign r = (negative, Nat.toDigits 10 n ++ rest)) :
      exponent? ('e' :: r) = some (some (if negative then -(n : Int) else n), rest) := by
    rw [exponent?_of_sign hr (Binary64.allDigits_toDigits n) Nat.toDigits_ne_nil hrest, hvalue]
  rw [Int.toString_eq_repr, Int.repr_eq_if]
  split
  · next hpos =>
    have hsign : exponentSign (Nat.toDigits 10 e.toNat ++ rest) =
        (false, Nat.toDigits 10 e.toNat ++ rest) := by
      have hdigits := Binary64.allDigits_toDigits e.toNat
      obtain ⟨d, ds, hds⟩ := List.exists_cons_of_ne_nil (Nat.toDigits_ne_nil (n := e.toNat) (b := 10))
      rw [hds] at hdigits ⊢
      exact exponentSign_digit (hdigits d List.mem_cons_self) _
    rw [Nat.toList_repr, hread hsign]
    simp [Int.toNat_of_nonneg hpos]
  · next hneg =>
    have htext : ("-" ++ (-e).toNat.repr).toList = '-' :: Nat.toDigits 10 (-e).toNat := by simp
    have hexp : -((-e).toNat : Int) = e := by omega
    rw [htext, List.cons_append, hread rfl, if_pos rfl, hexp]

/-- A text without an exponent. -/
theorem exponent?_none (hrest : NumberEnds rest) : exponent? rest = some (none, rest) := by
  cases rest with
  | nil => rfl
  | cons c rest =>
    obtain ⟨-, -, hlower, hupper⟩ := hrest c rfl
    exact if_neg (not_or.2 ⟨hlower, hupper⟩)

theorem exponent?_text (p : Parts) (hrest : NumberEnds rest) :
    exponent? (p.exponentText ++ rest) = some (p.exponent, rest) := by
  obtain ⟨whole, fraction, exponent⟩ := p
  cases exponent with
  | none => exact exponent?_none hrest
  | some e => exact exponent?_toString e fun c hc => (hrest c hc).1

/-- After the digits of a number comes its exponent or its end. -/
theorem exponentText_head (p : Parts) (hrest : NumberEnds rest) :
    ∀ c ∈ (p.exponentText ++ rest).head?, c.isDigit = false ∧ c ≠ '.' := by
  obtain ⟨whole, fraction, exponent⟩ := p
  cases exponent with
  | none => exact fun c hc => ⟨(hrest c hc).1, (hrest c hc).2.1⟩
  | some e =>
    intro c hc
    obtain rfl : 'e' = c := Option.some.inj hc
    decide

theorem fraction?_text {p : Parts} (h : p.WellFormed) (hrest : NumberEnds rest) :
    fraction? (p.fractionText ++ (p.exponentText ++ rest)) =
      some (p.fraction, p.exponentText ++ rest) := by
  have hhead := exponentText_head p hrest
  unfold Parts.fractionText
  split
  · next hnil =>
    rw [hnil, List.nil_append]
    unfold fraction?
    split
    · next heq =>
      rw [heq] at hhead
      exact absurd rfl (hhead '.' rfl).2
    · rfl
  · next hne =>
    rw [List.cons_append]
    unfold fraction?
    simp only [digits_append h.fraction_digits fun c hc => (hhead c hc).1]
    simp [hne]

/-- After the whole part of a number no digit comes. -/
theorem fractionText_head (p : Parts) (hrest : NumberEnds rest) :
    ∀ c ∈ (p.fractionText ++ (p.exponentText ++ rest)).head?, c.isDigit = false := by
  unfold Parts.fractionText
  split
  · exact fun c hc => (exponentText_head p hrest c hc).1
  · intro c hc
    obtain rfl : '.' = c := Option.some.inj hc
    decide

theorem number?_text {p : Parts} (h : p.WellFormed) (hrest : NumberEnds rest) (negative : Bool) :
    number? negative (p.text ++ rest) =
      some (numberValue negative p.whole p.fraction p.exponent, rest) := by
  have hlead : (p.whole.isEmpty || (p.whole.head? == some '0' && p.whole.length != 1)) = false := by
    have hne := h.whole_ne_nil
    have hleading := h.leading
    by_cases hzero : p.whole.head? = some '0' <;> simp_all
  unfold number? Parts.text
  rw [List.append_assoc, List.append_assoc,
    digits_append h.whole_digits (fractionText_head p hrest)]
  simp only [hlead, fraction?_text h hrest]
  change (exponent? (p.exponentText ++ rest) >>= fun e =>
    some (numberValue negative p.whole p.fraction e.1, e.2)) = _
  rw [exponent?_text p hrest]
  rfl

end

/-! ## What is kept of the digits -/

namespace Parts

/-- What the reader makes of a number that shows a fraction or an exponent. -/
def reading (p : Parts) (negative : Bool) : Value :=
  let x := ofRank negative (kept p.whole p.fraction (p.exponent.getD 0)).steppedRank
  if x.isFinite then .real x else .unusable

end Parts

/-! ## Writing -/

/-- A number that shows a fraction or an exponent is not whole. -/
theorem numberValue_eq {p : Parts} (hreal : p.fraction ≠ [] ∨ p.exponent ≠ none) (negative : Bool) :
    numberValue negative p.whole p.fraction p.exponent = p.reading negative := by
  have hwhole : (p.fraction.isEmpty && p.exponent.isNone) = false := by
    rw [Bool.and_eq_false_iff, List.isEmpty_eq_false_iff, Option.isNone_eq_false_iff,
      Option.isSome_iff_ne_none]
    exact hreal
  unfold numberValue Parts.reading
  simp only [hwhole, Bool.false_and, Bool.false_eq_true, if_false]

theorem exists_parts_placed {l : Layout} (hl : l.fraction = true) {digits : List Char}
    (hd : AllDigits digits) (hne : digits ≠ []) (hhead : digits.head? ≠ some '0') (point : Int) :
    ∃ p : Parts, p.WellFormed ∧ (p.fraction ≠ [] ∨ p.exponent ≠ none) ∧
      l.placed digits point = p.text := by
  have hzero : AllDigits ['0'] := Binary64.allDigits_zeros 1
  unfold Layout.placed
  split
  · next hlow =>
    refine ⟨⟨['0'], Layout.zeros point.natAbs ++ digits, none⟩,
      ⟨hzero, List.cons_ne_nil _ _, fun _ => rfl, (Binary64.allDigits_zeros _).append hd⟩,
      .inl (by simp [hne]), ?_⟩
    simp [Parts.text, Parts.fractionText, Parts.exponentText, hne]
  · next hpos =>
    split
    · refine ⟨⟨digits ++ Layout.zeros (point.toNat - digits.length), ['0'], none⟩,
        ⟨hd.append (Binary64.allDigits_zeros _), by simp [hne], ?_, hzero⟩,
        .inl (List.cons_ne_nil _ _), ?_⟩
      · rw [List.head?_append, Option.or_of_isSome (by simp [hne])]
        exact fun h => absurd h hhead
      · simp [Parts.text, Parts.fractionText, Parts.exponentText]
    · next hinside =>
      have hdrop : digits.drop point.toNat ≠ [] := by
        rw [Ne, List.drop_eq_nil_iff]
        omega
      refine ⟨⟨digits.take point.toNat, digits.drop point.toNat, none⟩,
        ⟨fun c hc => hd c (List.mem_of_mem_take hc), ?_, ?_,
          fun c hc => hd c (List.mem_of_mem_drop hc)⟩, .inl hdrop, ?_⟩
      · simp only [ne_eq, List.take_eq_nil_iff, hne, or_false]
        omega
      · rw [List.head?_take, if_neg (by omega)]
        exact fun h => absurd h hhead
      · simp [Parts.text, Parts.fractionText, Parts.exponentText, hdrop]

theorem exists_parts_scientific {digits : List Char} (hd : AllDigits digits) (hne : digits ≠ [])
    (exponent : Int) :
    ∃ p : Parts, p.WellFormed ∧ (p.fraction ≠ [] ∨ p.exponent ≠ none) ∧
      Layout.scientific digits exponent = p.text := by
  obtain ⟨d, rest, rfl⟩ := List.exists_cons_of_ne_nil hne
  obtain ⟨hdigit, hrest⟩ := List.forall_mem_cons.1 hd
  refine ⟨⟨[d], rest, some exponent⟩, ⟨?_, List.cons_ne_nil _ _, fun _ => rfl, hrest⟩,
    .inr (Option.some_ne_none _), ?_⟩
  · intro c hc
    rw [List.mem_singleton.1 hc]
    exact hdigit
  · cases rest <;> simp [Layout.scientific, Parts.text, Parts.fractionText, Parts.exponentText]

/-- A finite magnitude is written with a fraction or an exponent. -/
theorem exists_parts {rank : Nat} (h : rank < topRank) :
    ∃ p : Parts, p.WellFormed ∧ (p.fraction ≠ [] ∨ p.exponent ≠ none) ∧
      JsonText.layout.magnitude rank = p.text := by
  by_cases hzero : rank = 0
  · subst hzero
    refine ⟨⟨['0'], ['0'], none⟩, ⟨Binary64.allDigits_zeros 1, List.cons_ne_nil _ _, fun _ => rfl,
      Binary64.allDigits_zeros 1⟩, .inl (List.cons_ne_nil _ _), ?_⟩
    unfold Layout.magnitude
    rw [if_neg (Nat.ne_of_lt h), if_pos rfl]
    rfl
  · have hd := Binary64.allDigits_toDigits (Binary64.shortest rank).coefficient
    -- A decimal without value would round to zero.
    have hcoefficient : (Binary64.shortest rank).coefficient ≠ 0 := by
      intro hc
      have hshortest := Binary64.shortest_rank (Nat.le_of_lt h)
      generalize Binary64.shortest rank = d at hc hshortest
      obtain ⟨c, g⟩ := d
      obtain rfl : c = 0 := hc
      rw [Decimal.rank_zero] at hshortest
      exact hzero hshortest.symm
    rcases JsonText.layout.magnitude_eq (Nat.ne_of_lt h) hzero with htext | htext
    · rw [htext]
      exact exists_parts_placed rfl hd Nat.toDigits_ne_nil (head_toDigits hcoefficient) _
    · rw [htext]
      exact exists_parts_scientific hd Nat.toDigits_ne_nil _

/-- A finite magnitude is read as its parts are, whatever comes after it. -/
theorem number?_magnitude {rank : Nat} (h : rank < topRank) :
    ∃ p : Parts, p.WellFormed ∧ p.decimal.rank = rank ∧ JsonText.layout.magnitude rank = p.text ∧
      ∀ negative rest, NumberEnds rest →
        number? negative (JsonText.layout.magnitude rank ++ rest) = some (p.reading negative, rest) := by
  obtain ⟨p, hp, hreal, htext⟩ := exists_parts h
  have hdecimal : p.decimal.rank = rank := by
    rw [← hp.decimalOf_text, ← htext]
    exact JsonText.layout.rank_magnitude h
  refine ⟨p, hp, hdecimal, htext, fun negative rest hrest => ?_⟩
  rw [htext, number?_text hp hrest, numberValue_eq hreal]

end GridOutage.Document.Json
