import GridOutage.Proofs.Binary64.NumberText
import GridOutage.Proofs.Calendar

/-!
# Instants read back

The text of an instant in UTC reads back to the instant (`ofText?_toText`), leap seconds and years
of more than four digits included, if it is one that a date and a clock can show: its year is one
that dates may have, and only the last second of a minute can be a leap second. Whatever is read is
such an instant (`valid_of_ofText?`), so no other one reads back (`ofText?_toText_iff`).
-/
namespace GridOutage.Instant

open Binary64 (AllDigits)

/-! ## Digits -/

theorem isBlank_digit {c : Char} (h : c.isDigit = true) : Text.isBlank c = false := by
  have hnat := Char.isDigit_iff_toNat.1 h
  have h0 : '0'.toNat = 48 := rfl
  have h9 : '9'.toNat = 57 := rfl
  simp [Text.isBlank]
  omega

theorem allDigits_padded (width n : Nat) : AllDigits (padded width n) :=
  (Binary64.allDigits_zeros _).append (Binary64.allDigits_toDigits n)

theorem padded_ne_nil (width n : Nat) : padded width n ≠ [] := by
  simp [padded, Nat.toDigits_ne_nil]

theorem ofDigitChars_padded (width n : Nat) : Nat.ofDigitChars 10 (padded width n) 0 = n := by
  rw [padded, Nat.ofDigitChars_append, Nat.ofDigitChars_replicate_zero, Nat.mul_zero,
    Nat.ofDigitChars_ten_toDigits]

theorem length_padded {width n : Nat} (hwidth : 0 < width) (h : n < 10 ^ width) :
    (padded width n).length = width := by
  have hle := (Nat.length_toDigits_le_iff (by decide) hwidth).2 h
  rw [padded, List.length_append, List.length_replicate]
  omega

/-- Digits are read up to the limit or to the first character that is none. -/
theorem digits?_append {limit : Nat} {ds rest : List Char} (hds : AllDigits ds) (hne : ds ≠ [])
    (hlimit : ds.length ≤ limit)
    (hstop : ds.length = limit ∨ ∀ c ∈ rest.head?, c.isDigit = false) :
    digits? limit (ds ++ rest) = some (Nat.ofDigitChars 10 ds 0, rest) := by
  have hrest : (rest.take (limit - ds.length)).takeWhile Char.isDigit = [] := by
    rcases hstop with hstop | hstop
    · rw [hstop, Nat.sub_self, List.take_zero]
      rfl
    · cases rest with
      | nil => rw [List.take_nil]; rfl
      | cons c rest =>
        cases limit - ds.length with
        | zero => rfl
        | succ n => simp [hstop c rfl]
  unfold digits?
  simp only [List.take_append, List.take_of_length_le hlimit]
  rw [List.takeWhile_append_of_pos hds, hrest, List.append_nil]
  simp only [List.isEmpty_eq_false_iff.2 hne, List.drop_left, Bool.false_eq_true, if_false]
  rfl

theorem dropWhile_blank_digits {ds rest : List Char} (hds : AllDigits ds) (hne : ds ≠ []) :
    (ds ++ rest).dropWhile Text.isBlank = ds ++ rest := by
  obtain ⟨d, ds, rfl⟩ := List.exists_cons_of_ne_nil hne
  have hd := isBlank_digit (hds d List.mem_cons_self)
  rw [List.cons_append, List.dropWhile_cons_of_neg (by rw [hd]; exact Bool.false_ne_true)]

/-! ## Parts -/

theorem field?_padded {low high n : Nat} (hlow : low ≤ n) (hhigh : n ≤ high) (hn : high < 100)
    (rest : List Char) : field? low high (padded 2 n ++ rest) = some (n, rest) := by
  have hlength : (padded 2 n).length = 2 := length_padded (by decide) (by omega)
  have hds := allDigits_padded 2 n
  have hne := padded_ne_nil 2 n
  unfold field?
  rw [dropWhile_blank_digits hds hne, digits?_append hds hne (Nat.le_of_eq hlength) (.inl hlength),
    ofDigitChars_padded]
  simp only [Option.bind_eq_bind, Option.bind_some, if_pos (And.intro hlow hhigh)]

theorem mark?_cons {c : Char} (hc : Text.isBlank c = false) (rest : List Char) :
    mark? c (c :: rest) = some rest := by
  unfold mark?
  rw [List.dropWhile_cons_of_neg (by rw [hc]; exact Bool.false_ne_true)]
  exact if_pos rfl

/-- A year without a sign has at most four digits. -/
theorem year?_digits {ds : List Char} (hds : AllDigits ds) (hne : ds ≠ []) (rest : List Char) :
    year? (ds ++ rest) = (digits? 4 (ds ++ rest)).map fun (n, r) => ((n : Int), r) := by
  unfold year?
  rw [dropWhile_blank_digits hds hne]
  obtain ⟨d, ds, rfl⟩ := List.exists_cons_of_ne_nil hne
  have hd := hds d List.mem_cons_self
  split
  · next heq =>
    obtain ⟨rfl, -⟩ := List.cons.inj heq
    cases hd
  · next heq =>
    obtain ⟨rfl, -⟩ := List.cons.inj heq
    cases hd
  · rfl

theorem year?_yearText (year : Int) {rest : List Char}
    (hrest : ∀ c ∈ rest.head?, c.isDigit = false) :
    year? (yearText year ++ rest) = some (year, rest) := by
  have hds := allDigits_padded 4 year.natAbs
  have hne := padded_ne_nil 4 year.natAbs
  have hread {n : Nat} (hn : (padded 4 year.natAbs).length ≤ n) :
      digits? n (padded 4 year.natAbs ++ rest) = some (year.natAbs, rest) := by
    rw [digits?_append hds hne hn (.inr hrest), ofDigitChars_padded]
  have hsigned := hread (n := (padded 4 year.natAbs ++ rest).length) (by simp)
  unfold yearText
  split
  · next hneg =>
    have hvalue : -(year.natAbs : Int) = year := by omega
    change (digits? (padded 4 year.natAbs ++ rest).length (padded 4 year.natAbs ++ rest)).map _ = _
    rw [hsigned]
    exact congrArg (fun y => some (y, rest)) hvalue
  · next hpos =>
    have hvalue : (year.natAbs : Int) = year := by omega
    split
    · next hlarge =>
      change (digits? (padded 4 year.natAbs ++ rest).length (padded 4 year.natAbs ++ rest)).map _ = _
      rw [hsigned]
      exact congrArg (fun y => some (y, rest)) hvalue
    · next hsmall =>
      have hlength : (padded 4 year.natAbs).length = 4 := length_padded (by decide) (by omega)
      rw [year?_digits hds hne, hread (Nat.le_of_eq hlength)]
      exact congrArg (fun y => some (y, rest)) hvalue

/-- The digits of a fraction, filled up with zeros to nine. -/
theorem fraction?_padded {width n z : Nat} (hwidth : 0 < width) (hnine : width + z = 9)
    (hn : n < 10 ^ width) {rest : List Char} (hrest : ∀ c ∈ rest.head?, c.isDigit = false) :
    fraction? ('.' :: padded width n ++ rest) = some (n * 10 ^ z, rest) := by
  have hds := allDigits_padded width n
  have hlength := length_padded hwidth hn
  have htake := hds.span hrest
  have hfill : (padded width n ++ List.replicate 9 '0').take 9 =
      padded width n ++ List.replicate z '0' := by
    rw [List.take_append, List.take_of_length_le (by omega), hlength, List.take_replicate]
    congr 2
    omega
  have hvalue : Nat.ofDigitChars 10 (padded width n ++ List.replicate z '0') 0 = n * 10 ^ z := by
    rw [Nat.ofDigitChars_append, ofDigitChars_padded, Nat.ofDigitChars_replicate_zero, Nat.mul_comm]
  unfold fraction?
  rw [List.cons_append]
  simp only [htake, List.isEmpty_eq_false_iff.2 (padded_ne_nil width n), hfill, Bool.false_eq_true,
    if_false]
  rw [← hvalue]
  rfl

theorem fraction?_fractionText {nanos : Nat} (h : nanos < 1000000000) {rest : List Char}
    (hrest : ∀ c ∈ rest.head?, c.isDigit = false ∧ c ≠ '.') :
    fraction? (fractionText nanos ++ rest) = some (nanos, rest) := by
  have hdigit (c : Char) (hc : c ∈ rest.head?) := (hrest c hc).1
  unfold fractionText
  split
  · next hzero =>
    subst hzero
    unfold fraction?
    split
    · next heq =>
      rw [List.nil_append] at heq
      exact absurd rfl (hrest '.' (heq ▸ rfl)).2
    · rfl
  · split
    · next hmilli =>
      rw [fraction?_padded (z := 6) (by decide) rfl (by omega) hdigit]
      congr 2
      omega
    · split
      · next hmicro =>
        rw [fraction?_padded (z := 3) (by decide) rfl (by omega) hdigit]
        congr 2
        omega
      · rw [fraction?_padded (z := 0) (by decide) rfl (by omega) hdigit]
        simp

/-! ## Instants -/

/-- The instant that a day and a clock show; a sixtieth second is the leap second. -/
def ofClock (days : Int) (hour minute second nanos : Nat) : Instant :=
  let leap := if second = 60 then 1 else 0
  ⟨days * 86400 + hour * 3600 + minute * 60 + (second - leap : Nat), nanos + leap * 1000000000⟩

/-- The instant, unless its date in UTC is out of range. -/
def inRange? (t : Instant) : Option Instant :=
  if yearInRange (dateOfDays (t.seconds.fdiv 86400)).1 then some t else none

/-- The fields of date and clock are read one after the other. -/
theorem ofChars?_fields {year : Int} {month day hour minute second nanos : Nat}
    (hyear : yearInRange year = true) (hmonth : 1 ≤ month ∧ month ≤ 12)
    (hday : 1 ≤ day ∧ day ≤ daysInMonth year month) (hhour : hour ≤ 23) (hminute : minute ≤ 59)
    (hsecond : second ≤ 60) (hnanos : nanos < 1000000000) :
    ofChars? (yearText year ++ '-' :: padded 2 month ++ '-' :: padded 2 day ++
        'T' :: padded 2 hour ++ ':' :: padded 2 minute ++ ':' :: padded 2 second ++
        fractionText nanos ++ ['Z']) =
      inRange? (ofClock (daysOfDate year month day) hour minute second nanos) := by
  have hdash : Text.isBlank '-' = false := by decide
  have hcolon : Text.isBlank ':' = false := by decide
  have hlast : day ≤ 31 := Nat.le_trans hday.2 (daysInMonth_le year month)
  have hend : ∀ c ∈ ['Z'].head?, c.isDigit = false ∧ c ≠ '.' := by
    intro c hc
    obtain rfl : 'Z' = c := Option.some.inj hc
    decide
  have hsign (rest : List Char) : ∀ c ∈ ('-' :: rest).head?, c.isDigit = false := by
    intro c hc
    obtain rfl : '-' = c := Option.some.inj hc
    decide
  have hnext {α β : Type} {x : Option α} {a : α} {f : α → Option β} {r : Option β} (hx : x = some a)
      (hf : f a = r) : (x >>= f) = r := by
    rw [hx]
    exact hf
  simp only [List.append_assoc, List.cons_append]
  unfold ofChars?
  refine hnext (year?_yearText year (hsign _)) ?_
  refine hnext (mark?_cons hdash _) (hnext (field?_padded hmonth.1 hmonth.2 (by decide) _) ?_)
  refine hnext (mark?_cons hdash _) (hnext (field?_padded hday.1 hlast (by decide) _) ?_)
  refine hnext rfl (hnext (field?_padded (Nat.zero_le _) hhour (by decide) _) ?_)
  refine hnext (mark?_cons hcolon _)
    (hnext (field?_padded (Nat.zero_le _) hminute (by decide) _) ?_)
  refine hnext (mark?_cons hcolon _)
    (hnext (field?_padded (Nat.zero_le _) hsecond (by decide) _) ?_)
  refine hnext (fraction?_fractionText hnanos hend) (hnext rfl ?_)
  have hfits : ¬ (¬ [].all Text.isBlank = true ∨ ¬ yearInRange year = true ∨
      daysInMonth year month < day) := by
    simp [hyear, hday.2]
  dsimp only
  rw [if_neg hfits, Int.sub_zero]
  rfl

/-- A date and a clock can show the instant. -/
structure Valid (t : Instant) : Prop where
  year : yearInRange (dateOfDays (t.seconds.fdiv 86400)).1 = true
  /-- Only the last second of a minute can be a leap second. -/
  nanos : t.nanos < 1000000000 ∨ t.nanos < 2000000000 ∧ t.seconds % 60 = 59

instance : DecidablePred Valid := fun t =>
  decidable_of_iff (yearInRange (dateOfDays (t.seconds.fdiv 86400)).1 = true ∧
      (t.nanos < 1000000000 ∨ t.nanos < 2000000000 ∧ t.seconds % 60 = 59))
    ⟨fun h => ⟨h.1, h.2⟩, fun h => ⟨h.year, h.nanos⟩⟩

/-- The clock shows a sixtieth second exactly at a leap second. -/
theorem ofClock_clock {t : Instant} (h : t.Valid) {clock : Nat}
    (hclock : (t.seconds % 86400).toNat = clock) :
    ofClock (t.seconds / 86400) (clock / 3600) (clock / 60 % 60)
      (clock % 60 + t.nanos / 1000000000) (t.nanos % 1000000000) = t := by
  obtain ⟨seconds, nanos⟩ := t
  have hnanos := h.nanos
  dsimp only at hnanos hclock ⊢
  unfold ofClock
  by_cases hleap : 1000000000 ≤ nanos
  · have hsecond : clock % 60 + nanos / 1000000000 = 60 := by omega
    simp only [if_pos hsecond, mk.injEq]
    constructor <;> omega
  · have hsecond : clock % 60 + nanos / 1000000000 ≠ 60 := by omega
    simp only [if_neg hsecond, mk.injEq]
    constructor <;> omega

/-- Every instant that can be shown is read back from its text. -/
theorem ofText?_toText {t : Instant} (h : t.Valid) : ofText? t.toText = some t := by
  obtain ⟨year, month, day, hdate, hmonth, hmonths, hfirst, hlast, hdays⟩ :=
    dateOfDays_spec (t.seconds.fdiv 86400)
  have hyear := h.year
  have hnanos := h.nanos
  have hclock := ofClock_clock h rfl
  have hfdiv : t.seconds.fdiv 86400 = t.seconds / 86400 :=
    Int.fdiv_eq_ediv_of_nonneg _ (by decide)
  unfold ofText? toText localChars
  rw [hdate] at hyear ⊢
  rw [String.toList_ofList, Int.fmod_eq_emod_of_nonneg _ (by decide)]
  dsimp only
  rw [ofChars?_fields hyear ⟨hmonth, hmonths⟩ ⟨hfirst, hlast⟩ (by omega) (by omega) (by omega)
    (Nat.mod_lt _ (by decide)), hdays, hfdiv, hclock]
  exact if_pos h.year

/-! ## What is read -/

/-- A fraction is less than a second. -/
theorem fraction?_lt {cs rest : List Char} {nanos : Nat} (h : fraction? cs = some (nanos, rest)) :
    nanos < 1000000000 := by
  unfold fraction? at h
  split at h
  · next r =>
    dsimp only at h
    split at h
    · cases h
    · obtain ⟨rfl, -⟩ := Prod.mk.inj (Option.some.inj h)
      have hdigits : AllDigits ((r.takeWhile Char.isDigit ++ List.replicate 9 '0').take 9) := by
        intro c hc
        rcases List.mem_append.1 (List.mem_of_mem_take hc) with hc | hc
        · exact List.all_eq_true.1 List.all_takeWhile c hc
        · rw [List.eq_of_mem_replicate hc]
          decide
      have hlength : ((r.takeWhile Char.isDigit ++ List.replicate 9 '0').take 9).length = 9 := by
        simp
      have hlt := hdigits.ofDigitChars_lt 0
      rw [hlength] at hlt
      exact hlt
  · obtain ⟨rfl, -⟩ := Prod.mk.inj (Option.some.inj h)
    decide

/-- Zones are whole minutes apart. -/
theorem zone?_minutes {cs rest : List Char} {ahead : Int} (h : zone? cs = some (ahead, rest)) :
    ahead % 60 = 0 := by
  unfold zone? at h
  split at h
  · obtain ⟨rfl, -⟩ := Prod.mk.inj (Option.some.inj h)
    rfl
  · obtain ⟨rfl, -⟩ := Prod.mk.inj (Option.some.inj h)
    rfl
  · split at h
    · obtain ⟨rfl, -⟩ := Prod.mk.inj (Option.some.inj h)
      rfl
    · split at h
      · obtain ⟨⟨hours, afterHours⟩, -, h⟩ := Option.bind_eq_some_iff.1 h
        obtain ⟨⟨minutes, last⟩, -, h⟩ := Option.bind_eq_some_iff.1 h
        dsimp only at h
        split at h
        · obtain ⟨rfl, -⟩ := Prod.mk.inj (Option.some.inj h)
          split <;> omega
        · cases h
      · cases h
  · cases h

/-- Whatever is read as an instant can be shown. -/
theorem valid_of_ofText? {s : String} {t : Instant} (h : ofText? s = some t) : t.Valid := by
  unfold ofText? ofChars? at h
  obtain ⟨⟨year, _⟩, -, h⟩ := Option.bind_eq_some_iff.1 h
  obtain ⟨_, -, h⟩ := Option.bind_eq_some_iff.1 h
  obtain ⟨⟨month, _⟩, -, h⟩ := Option.bind_eq_some_iff.1 h
  obtain ⟨_, -, h⟩ := Option.bind_eq_some_iff.1 h
  obtain ⟨⟨day, rest⟩, -, h⟩ := Option.bind_eq_some_iff.1 h
  dsimp only at h
  split at h
  · split at h
    · obtain ⟨_, -, h⟩ := Option.bind_eq_some_iff.1 h
      obtain ⟨⟨hour, _⟩, -, h⟩ := Option.bind_eq_some_iff.1 h
      obtain ⟨_, -, h⟩ := Option.bind_eq_some_iff.1 h
      obtain ⟨⟨minute, _⟩, -, h⟩ := Option.bind_eq_some_iff.1 h
      obtain ⟨_, -, h⟩ := Option.bind_eq_some_iff.1 h
      obtain ⟨⟨second, _⟩, -, h⟩ := Option.bind_eq_some_iff.1 h
      obtain ⟨⟨nanos, _⟩, hnanos, h⟩ := Option.bind_eq_some_iff.1 h
      obtain ⟨⟨ahead, _⟩, hahead, h⟩ := Option.bind_eq_some_iff.1 h
      have hlt := fraction?_lt hnanos
      have hminutes := zone?_minutes hahead
      dsimp only at h
      split at h
      · cases h
      · generalize hleap : (if second = 60 then 1 else 0) = leap at h
        have hone : leap = 0 ∨ leap = 1 ∧ second = 60 := by
          rw [← hleap]
          split
          · next hsecond => exact .inr ⟨rfl, hsecond⟩
          · exact .inl rfl
        split at h
        · next hrange =>
          obtain rfl := Option.some.inj h
          refine ⟨hrange, ?_⟩
          dsimp only
          omega
        · cases h
    · cases h
  · cases h

/-- The instants that can be shown are the ones whose text reads back to them. -/
theorem ofText?_toText_iff {t : Instant} : ofText? t.toText = some t ↔ t.Valid :=
  ⟨valid_of_ofText?, ofText?_toText⟩

end GridOutage.Instant
