import GridOutage.Proofs.Binary64.Rounding

/-!
# The texts of numbers

`ofText` reads a number text: a sign, digits around a point, an exponent. `ofText_render` says that
it reads back whatever a layout writes, so that no two numbers have the same text in a layout
(`render_injective`). `render_chars` gives the characters that such texts are made of.
-/
namespace GridOutage.Binary64

/-! ## Reading -/

/-- What stands before and after the first `x`. -/
def cut (x : Char) : List Char → List Char × List Char
  | [] => ([], [])
  | c :: cs => if c = x then ([], cs) else (c :: (cut x cs).1, (cut x cs).2)

/-- A whole number, with a minus sign below zero. -/
def wholeOf : List Char → Int
  | '-' :: ds => -(Nat.ofDigitChars 10 ds 0 : Int)
  | ds => Nat.ofDigitChars 10 ds 0

/-- The decimal of digits with a point among them and an exponent after them. -/
def decimalOf (cs : List Char) : Decimal :=
  let (mantissa, exponent) := cut 'e' cs
  let (whole, fraction) := cut '.' mantissa
  ⟨Nat.ofDigitChars 10 (whole ++ fraction) 0, wholeOf exponent - fraction.length⟩

def magnitudeOf (cs : List Char) : Nat :=
  if cs = ['i', 'n', 'f'] then topRank else (decimalOf cs).rank

/-- The number of a text. -/
def ofText : List Char → Binary64
  | 'N' :: _ => .nan
  | '-' :: cs => ofRank true (magnitudeOf cs)
  | cs => ofRank false (magnitudeOf cs)

theorem cut_append {x : Char} {a : List Char} (ha : x ∉ a) (b : List Char) :
    cut x (a ++ x :: b) = (a, b) := by
  induction a with
  | nil => simp [cut]
  | cons c a ih =>
    obtain ⟨hc, ha⟩ := List.ne_and_not_mem_of_not_mem_cons ha
    have hne : c ≠ x := fun h => hc h.symm
    simp [cut, hne, ih ha]

theorem cut_of_not_mem {x : Char} {a : List Char} (ha : x ∉ a) : cut x a = (a, []) := by
  induction a with
  | nil => rfl
  | cons c a ih =>
    obtain ⟨hc, ha⟩ := List.ne_and_not_mem_of_not_mem_cons ha
    have hne : c ≠ x := fun h => hc h.symm
    simp [cut, hne, ih ha]

/-! ## Digits -/

def AllDigits (cs : List Char) : Prop := ∀ c ∈ cs, c.isDigit = true

theorem AllDigits.append {a b : List Char} (ha : AllDigits a) (hb : AllDigits b) :
    AllDigits (a ++ b) := by
  intro c hc
  rcases List.mem_append.1 hc with h | h
  · exact ha c h
  · exact hb c h

theorem AllDigits.not_mem {cs : List Char} (h : AllDigits cs) {x : Char} (hx : x.isDigit = false) :
    x ∉ cs := by
  intro hmem
  rw [h x hmem] at hx
  cases hx

/-- Digits are taken up to the first character that is none. -/
theorem AllDigits.span {ds rest : List Char} (h : AllDigits ds)
    (hrest : ∀ c ∈ rest.head?, c.isDigit = false) :
    (ds ++ rest).takeWhile Char.isDigit = ds ∧ (ds ++ rest).dropWhile Char.isDigit = rest := by
  rw [List.takeWhile_append_of_pos h, List.dropWhile_append_of_pos h]
  cases rest with
  | nil => simp
  | cons c rest => simp [hrest c rfl]

/-- What digits write after a number is less than what as many nines and one more would be. -/
theorem AllDigits.ofDigitChars_lt {ds : List Char} (h : AllDigits ds) (high : Nat) :
    Nat.ofDigitChars 10 ds high < (high + 1) * Nat.pow 10 ds.length := by
  induction ds generalizing high with
  | nil => simp
  | cons d ds ih =>
    obtain ⟨hd, hds⟩ := List.forall_mem_cons.1 h
    have hdigit : d.toNat - '0'.toNat ≤ 9 := by
      have hnat := (Char.isDigit_iff_toNat.1 hd).2
      have h0 : '0'.toNat = 48 := rfl
      have h9 : '9'.toNat = 57 := rfl
      omega
    have hpow : Nat.pow 10 (ds.length + 1) = 10 * Nat.pow 10 ds.length := Nat.pow_succ'
    rw [Nat.ofDigitChars_cons, List.length_cons, hpow, ← Nat.mul_assoc]
    exact Nat.lt_of_lt_of_le (ih hds _) (Nat.mul_le_mul_right _ (by omega))

theorem allDigits_toDigits (n : Nat) : AllDigits (Nat.toDigits 10 n) :=
  fun _ hc => Nat.isDigit_of_mem_toDigits (by decide) (by decide) hc

theorem allDigits_zeros (n : Nat) : AllDigits (Layout.zeros n) := by
  intro c hc
  rw [Layout.zeros, List.mem_replicate] at hc
  rw [hc.2]
  decide

theorem wholeOf_digits {ds : List Char} (h : AllDigits ds) : wholeOf ds = Nat.ofDigitChars 10 ds 0 := by
  unfold wholeOf
  split
  · next ds =>
    have hminus := h '-' List.mem_cons_self
    cases hminus
  · rfl

theorem wholeOf_toString (e : Int) : wholeOf (toString e).toList = e := by
  rw [Int.toString_eq_repr, Int.repr_eq_if]
  split
  · next hpos =>
    rw [Nat.toList_repr, wholeOf_digits (allDigits_toDigits _), Nat.ofDigitChars_ten_toDigits]
    omega
  · next hneg =>
    have htext : ("-" ++ (-e).toNat.repr).toList = '-' :: Nat.toDigits 10 (-e).toNat := by
      simp
    rw [htext, wholeOf, Nat.ofDigitChars_ten_toDigits]
    omega

/-! ## The parts of a text -/

section

variable {whole fraction mantissa : List Char}

theorem decimalOf_point (hw : AllDigits whole) (hf : AllDigits fraction) :
    decimalOf (whole ++ '.' :: fraction) =
      ⟨Nat.ofDigitChars 10 (whole ++ fraction) 0, -fraction.length⟩ := by
  have he : 'e' ∉ whole ++ '.' :: fraction := by
    have h1 := hw.not_mem (x := 'e') (by decide)
    have h2 := hf.not_mem (x := 'e') (by decide)
    simp [h1, h2]
  simp only [decimalOf, cut_of_not_mem he, cut_append (hw.not_mem (x := '.') (by decide))]
  simp [wholeOf]

theorem decimalOf_whole (hw : AllDigits whole) :
    decimalOf whole = ⟨Nat.ofDigitChars 10 whole 0, 0⟩ := by
  simp only [decimalOf, cut_of_not_mem (hw.not_mem (x := 'e') (by decide)),
    cut_of_not_mem (hw.not_mem (x := '.') (by decide))]
  simp [wholeOf]

theorem decimalOf_exponent (hm : 'e' ∉ mantissa) (e : Int) :
    decimalOf (mantissa ++ 'e' :: (toString e).toList) =
      ⟨(decimalOf mantissa).coefficient, (decimalOf mantissa).exponent + e⟩ := by
  simp only [decimalOf, cut_append hm, cut_of_not_mem hm, wholeOf_toString]
  simp only [wholeOf, Nat.ofDigitChars_nil]
  congr 1
  omega

end

/-! ## What a layout writes -/

namespace Layout

/-- Positional notation moves the point and fills up with zeros, which is the same decimal. -/
theorem rank_placed (l : Layout) {digits : List Char} (hd : AllDigits digits) (point : Int) :
    (decimalOf (l.placed digits point)).rank =
      Decimal.rank ⟨Nat.ofDigitChars 10 digits 0, point - digits.length⟩ := by
  unfold placed
  split
  · next hlow =>
    have hzero : AllDigits ['0'] := allDigits_zeros 1
    have htext := decimalOf_point hzero ((allDigits_zeros point.natAbs).append hd)
    change (decimalOf (['0'] ++ '.' :: (zeros point.natAbs ++ digits))).rank = _
    rw [htext]
    have hvalue : Nat.ofDigitChars 10 (['0'] ++ (zeros point.natAbs ++ digits)) 0 =
        Nat.ofDigitChars 10 digits 0 := by
      rw [Nat.ofDigitChars_append, Nat.ofDigitChars_append, zeros, Nat.ofDigitChars_replicate_zero]
      rfl
    have hlength : (zeros point.natAbs ++ digits).length = point.natAbs + digits.length := by
      simp [zeros]
    rw [hvalue, hlength, show -((point.natAbs + digits.length : Nat) : Int) =
      point - digits.length by omega]
  · next hpos =>
    split
    · next hlong =>
      have hwhole : AllDigits (digits ++ zeros (point.toNat - digits.length)) :=
        hd.append (allDigits_zeros _)
      have hvalue : Nat.ofDigitChars 10 (digits ++ zeros (point.toNat - digits.length)) 0 =
          Nat.ofDigitChars 10 digits 0 * Nat.pow 10 (point.toNat - digits.length) := by
        rw [Nat.ofDigitChars_append, zeros, Nat.ofDigitChars_replicate_zero]
        exact Nat.mul_comm _ _
      have hshift : (0 : Int) + ((point.toNat - digits.length : Nat) : Int) =
          point - digits.length := by
        omega
      have hzero : AllDigits ['0'] := allDigits_zeros 1
      split
      · have hten : Nat.ofDigitChars 10 (digits ++ zeros (point.toNat - digits.length) ++ ['0']) 0 =
            Nat.ofDigitChars 10 (digits ++ zeros (point.toNat - digits.length)) 0 * Nat.pow 10 1 := by
          rw [Nat.ofDigitChars_append]
          exact Nat.mul_comm _ _
        rw [decimalOf_point hwhole hzero, hten, Decimal.rank_shift, hvalue]
        change Decimal.rank ⟨_, 0⟩ = _
        rw [Decimal.rank_shift, hshift]
      · rw [List.append_nil, decimalOf_whole hwhole, hvalue, Decimal.rank_shift, hshift]
    · next hinside =>
      have htake : AllDigits (digits.take point.toNat) := fun c hc => hd c (List.mem_of_mem_take hc)
      have hdrop : AllDigits (digits.drop point.toNat) := fun c hc => hd c (List.mem_of_mem_drop hc)
      rw [decimalOf_point htake hdrop, List.take_append_drop, List.length_drop,
        show -((digits.length - point.toNat : Nat) : Int) = point - digits.length by omega]

/-- The exponent makes up for the point after the first digit. -/
theorem decimalOf_scientific {digits : List Char} (hd : AllDigits digits) (hne : digits ≠ [])
    (exponent : Int) :
    decimalOf (scientific digits exponent) =
      ⟨Nat.ofDigitChars 10 digits 0, exponent + 1 - digits.length⟩ := by
  cases digits with
  | nil => exact absurd rfl hne
  | cons d rest =>
    have hfirst : AllDigits [d] := by
      intro c hc
      obtain rfl := List.mem_singleton.1 hc
      exact hd c List.mem_cons_self
    have hrest : AllDigits rest := fun c hc => hd c (List.mem_cons_of_mem d hc)
    cases rest with
    | nil =>
      change decimalOf ([d] ++ 'e' :: (toString exponent).toList) = _
      rw [decimalOf_exponent (hfirst.not_mem (by decide)), decimalOf_whole hfirst]
      congr 1
      simp
    | cons r rest =>
      have he : 'e' ∉ [d] ++ '.' :: r :: rest := by
        have h1 := hfirst.not_mem (x := 'e') (by decide)
        have h2 := hrest.not_mem (x := 'e') (by decide)
        simp_all
      change decimalOf (([d] ++ '.' :: r :: rest) ++ 'e' :: (toString exponent).toList) = _
      rw [decimalOf_exponent he, decimalOf_point hfirst hrest]
      congr 1
      simp only [List.length_cons]
      omega

/-- A finite magnitude other than zero is written in positional or in scientific notation, from the
digits and the exponent of its shortest decimal. -/
theorem magnitude_eq (l : Layout) {rank : Nat} (htop : rank ≠ topRank) (hzero : rank ≠ 0) :
    l.magnitude rank = l.placed (Nat.toDigits 10 (shortest rank).coefficient)
        ((Nat.toDigits 10 (shortest rank).coefficient).length + (shortest rank).exponent) ∨
      l.magnitude rank = scientific (Nat.toDigits 10 (shortest rank).coefficient)
        ((Nat.toDigits 10 (shortest rank).coefficient).length + (shortest rank).exponent - 1) := by
  unfold magnitude
  rw [if_neg htop, if_neg hzero]
  generalize shortest rank = d
  dsimp only
  split
  · exact .inl rfl
  · split
    · exact .inl rfl
    · exact .inr rfl

/-- The text of a finite magnitude denotes a decimal that rounds to it. -/
theorem rank_magnitude (l : Layout) {rank : Nat} (h : rank < topRank) :
    (decimalOf (l.magnitude rank)).rank = rank := by
  by_cases hzero : rank = 0
  · subst hzero
    have hpoint : decimalOf ['0', '.', '0'] = ⟨0, -1⟩ := by decide
    have hwhole : decimalOf ['0'] = ⟨0, 0⟩ := by decide
    unfold magnitude
    rw [if_neg (Nat.ne_of_lt h), if_pos rfl]
    split
    · rw [hpoint, Decimal.rank_zero]
    · rw [hwhole, Decimal.rank_zero]
  · have hshortest := shortest_rank (Nat.le_of_lt h)
    have hmagnitude := l.magnitude_eq (Nat.ne_of_lt h) hzero
    generalize shortest rank = d at hshortest hmagnitude
    obtain ⟨c, g⟩ := d
    dsimp only at hmagnitude
    have hd := allDigits_toDigits c
    have hvalue : Nat.ofDigitChars 10 (Nat.toDigits 10 c) 0 = c := Nat.ofDigitChars_ten_toDigits
    have hexp (n : Nat) : (n + g : Int) - n = g := by omega
    rcases hmagnitude with htext | htext
    · rw [htext, rank_placed l hd, hvalue, hexp]
      exact hshortest
    · rw [htext, decimalOf_scientific hd Nat.toDigits_ne_nil, hvalue, Int.sub_add_cancel, hexp]
      exact hshortest

/-! ## Characters -/

theorem placed_head (l : Layout) {digits : List Char} (hd : AllDigits digits) (hne : digits ≠ [])
    (point : Int) : ∃ c rest, l.placed digits point = c :: rest ∧ c.isDigit = true := by
  obtain ⟨d, rest, rfl⟩ := List.exists_cons_of_ne_nil hne
  have hfirst := hd d List.mem_cons_self
  unfold placed
  split
  · exact ⟨'0', _, rfl, by decide⟩
  · next hpos =>
    split
    · exact ⟨d, _, rfl, hfirst⟩
    · obtain ⟨n, hn⟩ : ∃ n, point.toNat = n + 1 := ⟨point.toNat - 1, by omega⟩
      rw [hn]
      exact ⟨d, _, rfl, hfirst⟩

theorem scientific_head {digits : List Char} (hd : AllDigits digits) (hne : digits ≠ [])
    (exponent : Int) : ∃ c rest, scientific digits exponent = c :: rest ∧ c.isDigit = true := by
  obtain ⟨d, rest, rfl⟩ := List.exists_cons_of_ne_nil hne
  exact ⟨d, _, rfl, hd d List.mem_cons_self⟩

theorem magnitude_head (l : Layout) {rank : Nat} (h : rank ≠ topRank) :
    ∃ c rest, l.magnitude rank = c :: rest ∧ c.isDigit = true := by
  by_cases hzero : rank = 0
  · unfold magnitude
    rw [if_neg h, if_pos hzero]
    exact ⟨'0', _, rfl, by decide⟩
  · have hd := allDigits_toDigits (shortest rank).coefficient
    rcases l.magnitude_eq h hzero with htext | htext
    · rw [htext]
      exact placed_head l hd Nat.toDigits_ne_nil _
    · rw [htext]
      exact scientific_head hd Nat.toDigits_ne_nil _

theorem magnitudeOf_magnitude (l : Layout) {rank : Nat} (h : rank ≤ topRank) :
    magnitudeOf (l.magnitude rank) = rank := by
  unfold magnitudeOf
  by_cases htop : rank = topRank
  · subst htop
    simp [magnitude]
  · obtain ⟨c, rest, hc, hdigit⟩ := l.magnitude_head htop
    have hinf : l.magnitude rank ≠ ['i', 'n', 'f'] := by
      intro hi
      rw [hi] at hc
      obtain ⟨rfl, -⟩ := List.cons.inj hc
      cases hdigit
    rw [if_neg hinf]
    exact l.rank_magnitude (by omega)

theorem ofText_magnitude (l : Layout) (rank : Nat) :
    ofText (l.magnitude rank) = ofRank false (magnitudeOf (l.magnitude rank)) := by
  by_cases htop : rank = topRank
  · subst htop
    simp [magnitude, ofText]
  · obtain ⟨c, rest, hc, hdigit⟩ := l.magnitude_head htop
    rw [hc]
    unfold ofText
    split
    · next heq =>
      obtain ⟨rfl, -⟩ := List.cons.inj heq
      cases hdigit
    · next heq =>
      obtain ⟨rfl, -⟩ := List.cons.inj heq
      cases hdigit
    · rfl

/-- The text of a number in any layout reads back to the number. -/
theorem ofText_render (l : Layout) (x : Binary64) : ofText (l.render x) = x := by
  cases x with
  | nan => rfl
  | number negative rank =>
    have hrank := l.magnitudeOf_magnitude (Nat.le_of_lt_succ rank.isLt)
    have hnumber (negative : Bool) : ofRank negative rank = .number negative rank := by
      simp [ofRank, Nat.min_eq_left (Nat.le_of_lt_succ rank.isLt)]
    cases negative with
    | true =>
      change ofRank true (magnitudeOf (l.magnitude rank)) = _
      rw [hrank, hnumber]
    | false =>
      change ofText (l.magnitude rank) = _
      rw [ofText_magnitude, hrank, hnumber]

/-- In a layout no two numbers have the same text. -/
theorem render_injective (l : Layout) {x y : Binary64} (h : l.render x = l.render y) : x = y := by
  rw [← ofText_render l x, h, ofText_render]

/-- What number texts are made of. -/
def IsNumberChar (c : Char) : Prop :=
  c.isDigit = true ∨ c ∈ ['.', '-', 'e', 'i', 'n', 'f', 'N', 'a']

instance : DecidablePred IsNumberChar := fun c =>
  inferInstanceAs (Decidable (c.isDigit = true ∨ c ∈ ['.', '-', 'e', 'i', 'n', 'f', 'N', 'a']))

/-- The characters of a given text are tried one by one. -/
theorem isNumberChar_of_all {cs : List Char} (h : cs.all (fun c => decide (IsNumberChar c)) = true) :
    ∀ c ∈ cs, IsNumberChar c :=
  fun c hc => of_decide_eq_true (List.all_eq_true.1 h c hc)

theorem digits_chars {cs : List Char} (h : AllDigits cs) : ∀ c ∈ cs, IsNumberChar c :=
  fun c hc => .inl (h c hc)

theorem toString_chars (e : Int) : ∀ c ∈ (toString e).toList, IsNumberChar c := by
  rw [Int.toString_eq_repr, Int.repr_eq_if]
  split
  · rw [Nat.toList_repr]
    exact digits_chars (allDigits_toDigits _)
  · have htext : ("-" ++ (-e).toNat.repr).toList = '-' :: Nat.toDigits 10 (-e).toNat := by simp
    rw [htext, List.forall_mem_cons]
    exact ⟨by decide, digits_chars (allDigits_toDigits _)⟩

theorem placed_chars (l : Layout) {digits : List Char} (hd : AllDigits digits) (point : Int) :
    ∀ c ∈ l.placed digits point, IsNumberChar c := by
  have hdigits := digits_chars hd
  have hzeros (n : Nat) := digits_chars (allDigits_zeros n)
  unfold placed
  split
  · simp only [List.cons_append, List.forall_mem_cons, List.forall_mem_append]
    exact ⟨by decide, by decide, hzeros _, hdigits⟩
  · split
    · simp only [List.forall_mem_append]
      refine ⟨⟨hdigits, hzeros _⟩, ?_⟩
      split <;> exact isNumberChar_of_all (by decide)
    · simp only [List.forall_mem_append, List.forall_mem_cons]
      exact ⟨fun c hc => hdigits c (List.mem_of_mem_take hc), by decide,
        fun c hc => hdigits c (List.mem_of_mem_drop hc)⟩

theorem scientific_chars {digits : List Char} (hd : AllDigits digits) (exponent : Int) :
    ∀ c ∈ scientific digits exponent, IsNumberChar c := by
  have hdigits := digits_chars hd
  unfold scientific
  simp only [List.forall_mem_append, List.forall_mem_cons]
  refine ⟨⟨fun c hc => hdigits c (List.mem_of_mem_take hc), ?_⟩, by decide, toString_chars _⟩
  split
  · exact List.forall_mem_nil _
  · rw [List.forall_mem_cons]
    exact ⟨by decide, fun c hc => hdigits c (List.mem_of_mem_drop hc)⟩

theorem magnitude_chars (l : Layout) (rank : Nat) : ∀ c ∈ l.magnitude rank, IsNumberChar c := by
  by_cases htop : rank = topRank
  · unfold magnitude
    rw [if_pos htop]
    exact isNumberChar_of_all (by decide)
  by_cases hzero : rank = 0
  · unfold magnitude
    rw [if_neg htop, if_pos hzero]
    split <;> exact isNumberChar_of_all (by decide)
  · have hd := allDigits_toDigits (shortest rank).coefficient
    rcases l.magnitude_eq htop hzero with htext | htext
    · rw [htext]
      exact l.placed_chars hd _
    · rw [htext]
      exact scientific_chars hd _

theorem render_chars (l : Layout) (x : Binary64) : ∀ c ∈ l.render x, IsNumberChar c := by
  unfold render
  split
  · exact isNumberChar_of_all (by decide)
  · rw [List.forall_mem_append]
    refine ⟨?_, l.magnitude_chars _⟩
    split <;> exact isNumberChar_of_all (by decide)

end Layout

end GridOutage.Binary64
