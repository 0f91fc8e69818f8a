import GridOutage.Instant
import Mathlib.Tactic.IntervalCases

/-!
# The calendar

Counts of days and dates of the proleptic Gregorian calendar say the same. An era is cut into
centuries, cycles of four years and years, of which only the last in its group may be longer
(`yearOfEra_spec`); a year that starts in March is cut into months by one linear formula. Every day
has a date that the calendar knows, and the date counts back to the day (`dateOfDays_spec`).
-/
namespace GridOutage.Instant

/-! ## Years -/

/-- The year of a day within an era. -/
def yearOfEra (dayOfEra : Nat) : Nat :=
  (dayOfEra - dayOfEra / 1460 + dayOfEra / 36524 - dayOfEra / 146096) / 365

/-- The days of an era before one of its years. -/
def daysBeforeYear (year : Nat) : Nat := 365 * year + year / 4 - year / 100

/-- A day within an era by its century, its cycle of four years and the day of that cycle. -/
theorem exists_cycle {dayOfEra : Nat} (h : dayOfEra < 146096) :
    ∃ century cycle day, dayOfEra = 36524 * century + 1461 * cycle + day ∧ century ≤ 3 ∧
      cycle ≤ 24 ∧ day ≤ 1460 ∧ (cycle = 24 → day ≤ 1459) := by
  refine ⟨dayOfEra / 36524, dayOfEra % 36524 / 1461, dayOfEra % 36524 % 1461, ?_, ?_, ?_, ?_, ?_⟩ <;>
    omega

/-- Only the last year of a cycle has a day more, and the last cycle of a century has none. -/
theorem yearOfEra_cycle {century cycle day : Nat} (hcentury : century ≤ 3) (hcycle : cycle ≤ 24)
    (hday : day ≤ 1460) (hlast : cycle = 24 → day ≤ 1459) :
    ∃ year, yearOfEra (36524 * century + 1461 * cycle + day) = 100 * century + 4 * cycle + year ∧
      year ≤ 3 ∧ 365 * year ≤ day ∧ day ≤ 365 * year + 365 ∧
      (day = 365 * year + 365 → year = 3 ∧ cycle ≠ 24) := by
  -- What the length of the cycles before it lacks in the count of days.
  obtain ⟨carry, hcarry⟩ : ∃ carry, carry = (24 * century + cycle + day) / 1460 := ⟨_, rfl⟩
  have hquot : (36524 * century + 1461 * cycle + day) / 1460 = 25 * century + cycle + carry := by
    omega
  have hcenturies : (36524 * century + 1461 * cycle + day) / 36524 = century := by omega
  have heras : (36524 * century + 1461 * cycle + day) / 146096 = 0 := by omega
  refine ⟨(day - carry) / 365, ?_, by omega, by omega, by omega, by omega⟩
  unfold yearOfEra
  rw [hquot, hcenturies, heras]
  omega

theorem daysBeforeYear_cycle {century cycle year : Nat} (hcycle : cycle ≤ 24)
    (hyear : year ≤ 3) :
    daysBeforeYear (100 * century + 4 * cycle + year) =
      36524 * century + 1461 * cycle + 365 * year := by
  unfold daysBeforeYear
  omega

/-- A day within an era lies in its year, and is the 366th of it only where February has 29 days,
which is in the next calendar year. -/
theorem yearOfEra_spec {dayOfEra : Nat} (h : dayOfEra ≤ 146096) :
    yearOfEra dayOfEra ≤ 399 ∧ daysBeforeYear (yearOfEra dayOfEra) ≤ dayOfEra ∧
      dayOfEra ≤ daysBeforeYear (yearOfEra dayOfEra) + 365 ∧
      (dayOfEra = daysBeforeYear (yearOfEra dayOfEra) + 365 →
        (yearOfEra dayOfEra + 1) % 4 = 0 ∧
          ((yearOfEra dayOfEra + 1) % 100 ≠ 0 ∨ (yearOfEra dayOfEra + 1) % 400 = 0)) := by
  by_cases hend : dayOfEra = 146096
  · subst hend
    decide
  · obtain ⟨century, cycle, day, rfl, hcentury, hcycle, hday, hlast⟩ :=
      exists_cycle (Nat.lt_of_le_of_ne h hend)
    obtain ⟨year, hyear, hle, hlow, hhigh, hleap⟩ := yearOfEra_cycle hcentury hcycle hday hlast
    rw [hyear, daysBeforeYear_cycle hcycle hle]
    refine ⟨by omega, by omega, by omega, fun heq => ?_⟩
    obtain ⟨rfl, hne⟩ := hleap (by omega)
    omega

/-! ## Months -/

/-- The date of a day of a year within an era, years starting in March. -/
def dateInEra (era : Int) (year dayOfYear : Nat) : Int × Nat × Nat :=
  let shifted := (5 * dayOfYear + 2) / 153
  let month := if shifted < 10 then shifted + 3 else shifted - 9
  let calendarYear : Int := year + era * 400
  (if month ≤ 2 then calendarYear + 1 else calendarYear, month,
    dayOfYear - (153 * shifted + 2) / 5 + 1)

theorem dateOfDays_eq (era : Int) {dayOfEra : Nat} (h : dayOfEra ≤ 146096) :
    dateOfDays (era * 146097 + dayOfEra - 719468) =
      dateInEra era (yearOfEra dayOfEra) (dayOfEra - daysBeforeYear (yearOfEra dayOfEra)) := by
  have hera : (era * 146097 + dayOfEra - 719468 + 719468).fdiv 146097 = era := by
    rw [Int.fdiv_eq_ediv_of_nonneg _ (by decide)]
    omega
  have hday : (era * 146097 + dayOfEra - 719468 + 719468 - era * 146097).toNat = dayOfEra := by
    omega
  unfold dateOfDays
  simp only [hera, hday]
  rfl

theorem shifted_spec {dayOfYear : Nat} (h : dayOfYear ≤ 365) :
    (5 * dayOfYear + 2) / 153 ≤ 11 ∧
      (153 * ((5 * dayOfYear + 2) / 153) + 2) / 5 ≤ dayOfYear := by
  omega

/-- The date says which day it is. -/
theorem daysOfDate_dateInEra (era : Int) {year dayOfYear : Nat} (hyear : year ≤ 399)
    (hday : dayOfYear ≤ 365) :
    daysOfDate (dateInEra era year dayOfYear).1 (dateInEra era year dayOfYear).2.1
        (dateInEra era year dayOfYear).2.2 =
      era * 146097 + (daysBeforeYear year + dayOfYear : Nat) - 719468 := by
  obtain ⟨hmonth, hstart⟩ := shifted_spec hday
  have hera : ((year : Int) + era * 400).fdiv 400 = era := by
    rw [Int.fdiv_eq_ediv_of_nonneg _ (by decide)]
    omega
  unfold dateInEra
  generalize (5 * dayOfYear + 2) / 153 = shifted at hmonth hstart ⊢
  unfold daysBeforeYear
  by_cases hearly : shifted < 10
  · have hlate : ¬ shifted + 3 ≤ 2 := by omega
    unfold daysOfDate
    simp only [if_pos hearly, if_neg hlate, hera, Nat.add_sub_cancel]
    omega
  · have hlate : shifted - 9 ≤ 2 := by omega
    have hsub : (year : Int) + era * 400 + 1 - 1 = year + era * 400 := by omega
    have hshift : shifted - 9 + 9 = shifted := by omega
    unfold daysOfDate
    simp only [if_neg hearly, if_pos hlate, hsub, hera, hshift]
    omega

/-- The months before February are as long as their starts are apart. -/
theorem month_length (year : Int) {shifted : Nat} (h : shifted ≤ 10) :
    (153 * (shifted + 1) + 2) / 5 - (153 * shifted + 2) / 5 ≤
      daysInMonth year (if shifted < 10 then shifted + 3 else shifted - 9) := by
  interval_cases shifted <;> simp [daysInMonth]

theorem isLeapYear_in_era (era : Int) {year : Nat}
    (h : (year + 1) % 4 = 0 ∧ ((year + 1) % 100 ≠ 0 ∨ (year + 1) % 400 = 0)) :
    isLeapYear (year + era * 400 + 1) = true := by
  simp only [isLeapYear, Bool.and_eq_true, Bool.or_eq_true, beq_iff_eq, bne_iff_ne]
  omega

/-- The date is one of the calendar. -/
theorem dateInEra_spec (era : Int) {year dayOfYear : Nat} (hday : dayOfYear ≤ 365)
    (hleap : dayOfYear = 365 →
      (year + 1) % 4 = 0 ∧ ((year + 1) % 100 ≠ 0 ∨ (year + 1) % 400 = 0)) :
    1 ≤ (dateInEra era year dayOfYear).2.1 ∧ (dateInEra era year dayOfYear).2.1 ≤ 12 ∧
      1 ≤ (dateInEra era year dayOfYear).2.2 ∧ (dateInEra era year dayOfYear).2.2 ≤
        daysInMonth (dateInEra era year dayOfYear).1 (dateInEra era year dayOfYear).2.1 := by
  obtain ⟨hmonth, hstart⟩ := shifted_spec hday
  have hend : 5 * dayOfYear + 2 < 153 * ((5 * dayOfYear + 2) / 153 + 1) := by omega
  unfold dateInEra
  dsimp only
  generalize (5 * dayOfYear + 2) / 153 = shifted at hmonth hstart hend ⊢
  refine ⟨by split <;> omega, by split <;> omega, by omega, ?_⟩
  by_cases hfebruary : shifted = 11
  · subst hfebruary
    by_cases hlast : dayOfYear = 365
    · simp [daysInMonth, hlast, isLeapYear_in_era era (hleap hlast)]
    · have hmin : 28 ≤ daysInMonth (year + era * 400 + 1) 2 := by
        simp only [daysInMonth, beq_self_eq_true, if_true]
        split <;> decide
      change _ ≤ daysInMonth (year + era * 400 + 1) 2
      omega
  · have hlength (y : Int) := @month_length y shifted (by omega)
    exact Nat.le_trans (by omega) (hlength _)

/-- Every day has a date of the calendar that says which day it is. -/
theorem dateOfDays_spec (days : Int) :
    ∃ year month day, dateOfDays days = (year, month, day) ∧ 1 ≤ month ∧ month ≤ 12 ∧ 1 ≤ day ∧
      day ≤ daysInMonth year month ∧ daysOfDate year month day = days := by
  obtain ⟨era, dayOfEra, hle, rfl⟩ : ∃ (era : Int) (dayOfEra : Nat), dayOfEra ≤ 146096 ∧
      days = era * 146097 + dayOfEra - 719468 :=
    ⟨(days + 719468) / 146097, ((days + 719468) % 146097).toNat, by omega, by omega⟩
  obtain ⟨hyear, hlow, hhigh, hleap⟩ := yearOfEra_spec hle
  have hday : dayOfEra - daysBeforeYear (yearOfEra dayOfEra) ≤ 365 := by omega
  have hdate := daysOfDate_dateInEra era hyear hday
  obtain ⟨hmonth, hmonths, hfirst, hlast⟩ := @dateInEra_spec era (yearOfEra dayOfEra) _ hday fun h =>
    hleap (by omega)
  rw [Nat.add_sub_cancel' hlow] at hdate
  exact ⟨_, _, _, dateOfDays_eq era hle, hmonth, hmonths, hfirst, hlast, hdate⟩

theorem daysInMonth_le (year : Int) (month : Nat) : daysInMonth year month ≤ 31 := by
  unfold daysInMonth
  split
  · split <;> decide
  · split <;> decide

end GridOutage.Instant
