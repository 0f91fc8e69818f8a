import GridOutage.Proofs.Binary64.Order
import GridOutage.Proofs.Filter.Selection

/-!
# Constraints at the ends of an element

How the verdict of `HoldAtEnds` changes with the two constraints and with the two ends. The ends may
be turned (`holdAtEnds_turned`), the constraints exchanged (`holdAtEnds_comm`), and a constraint
dropped (`HoldAtEnds.drop`). Widening is the exception, `HoldAtEnds.widened_iff`: two constraints
that were equal may hold at one end alone, and once they differ they may not.

All of this asks of the constraints that equal ones hold at the same terminals (`Interchangeable`).
Two country sets with the same members do, and so do two voltage filters whose bounds are the same
numbers, be they zeros of different signs (`Binary64.sub_congr`).
-/
namespace GridOutage

/-- Elements of the type have two ends. -/
def EquipmentType.DualEnded (type : EquipmentType) : Prop :=
  type ∈ [.line, .twoWindingsTransformer, .threeWindingsTransformer, .hvdcLine]

instance (type : EquipmentType) : Decidable type.DualEnded :=
  inferInstanceAs (Decidable (type ∈ _))

namespace Filter

open Network (Terminal)

theorem Comparison.holds_congr {a b : Binary64} (h : a.same b = true) (c : Comparison)
    (v : Binary64) : c.holds v a = c.holds v b := by
  cases c with
  | equal => rw [holds, holds, Binary64.sub_congr h]
  | greaterThan => exact Binary64.lt_congr_left h v
  | greaterOrEqual => exact Binary64.le_congr_left h v
  | lessThan => exact Binary64.lt_congr_right h v
  | lessOrEqual => exact Binary64.le_congr_right h v

namespace VoltageFilter

theorem same_symm {f g : VoltageFilter} (h : f.same g = true) : g.same f = true := by
  cases f <;> cases g <;> simp_all [same, Binary64.same_comm]

/-- Filters with the same bounds admit the same voltages. -/
theorem admits_congr {f g : VoltageFilter} (h : f.same g = true) (v : Binary64) :
    f.Admits v ↔ g.Admits v := by
  cases f with
  | compare c a =>
    cases g with
    | compare d b =>
      obtain ⟨hcomparison, hbound⟩ := Bool.and_eq_true_iff.1 h
      obtain rfl := eq_of_beq hcomparison
      rw [Admits, Admits, c.holds_congr hbound]
    | range low high => cases h
  | range a b =>
    cases g with
    | compare d b => cases h
    | range low high =>
      obtain ⟨hlow, hhigh⟩ := Bool.and_eq_true_iff.1 h
      rw [Admits, Admits, Binary64.le_congr_left hlow, Binary64.le_congr_right hhigh]

end VoltageFilter

/-! ## Two constraints at two ends -/

/-- Equal constraints hold at the same terminals. -/
structure Interchangeable {α : Type} (equal : α → α → Prop) (holds : α → Terminal → Prop) : Prop where
  symm : ∀ a b, equal a b → equal b a
  holds_iff : ∀ a b, equal a b → ∀ t, holds a t ↔ holds b t

theorem interchangeable_voltages (net : Network) :
    Interchangeable (fun f g => f.same g = true) (VoltageFilter.HoldsAt net) where
  symm _ _ h := VoltageFilter.same_symm h
  holds_iff f g h t := by simp only [VoltageFilter.HoldsAt, VoltageFilter.admits_congr h]

theorem interchangeable_countries (net : Network) :
    Interchangeable (fun a b : CountrySet => ∀ c, c ∈ a.members ↔ c ∈ b.members)
      (InCountries net) where
  symm _ _ h c := (h c).symm
  holds_iff a b h t := by simp only [InCountries, h]

section

variable {α : Type} {equal : α → α → Prop} {holds : α → Terminal → Prop} {t u : Terminal}
  {a b : Option α}

/-- Neither of two ends is the first by nature. The other pair may be that of another network. -/
theorem holdAtEnds_turned {holds' : α → Terminal → Prop} {t' u' : Terminal}
    (ht : ∀ x, holds x t ↔ holds' x t') (hu : ∀ x, holds x u ↔ holds' x u') :
    HoldAtEnds equal holds (.pair t u) a b ↔ HoldAtEnds equal holds' (.pair u' t') a b := by
  cases a with
  | none =>
    cases b with
    | none => exact Iff.rfl
    | some b => simp only [HoldAtEnds, ht, hu, or_comm]
  | some a =>
    cases b with
    | none => simp only [HoldAtEnds, ht, hu, or_comm]
    | some b =>
      simp only [HoldAtEnds, ht, hu]
      rw [or_comm (a := holds' a t'), or_comm (a := holds' a t' ∧ holds' b u'),
        and_comm (a := holds' b t'), and_comm (a := holds' a t')]

theorem HoldAtEnds.exchange (h : Interchangeable equal holds)
    (hab : HoldAtEnds equal holds (.pair t u) a b) : HoldAtEnds equal holds (.pair t u) b a := by
  cases a with
  | none => cases b <;> exact hab
  | some a =>
    cases b with
    | none => exact hab
    | some b =>
      rcases hab with ⟨he, hx⟩ | ⟨hne, hx⟩
      · exact .inl ⟨h.symm a b he, hx.imp (h.holds_iff a b he t).1 (h.holds_iff a b he u).1⟩
      · exact .inr ⟨fun he => hne (h.symm b a he), hx.symm⟩

theorem holdAtEnds_comm (h : Interchangeable equal holds) :
    HoldAtEnds equal holds (.pair t u) a b ↔ HoldAtEnds equal holds (.pair t u) b a :=
  ⟨.exchange h, .exchange h⟩

/-- Without one of two constraints, the other holds at one of the ends. -/
theorem HoldAtEnds.either {a b : α}
    (hab : HoldAtEnds equal holds (.pair t u) (some a) (some b)) : holds a t ∨ holds a u := by
  rcases hab with ⟨-, hx⟩ | ⟨-, hx⟩
  · exact hx
  · exact hx.imp And.left And.right

/-- Of the constraints at some ends any may be dropped. -/
theorem HoldAtEnds.drop (h : Interchangeable equal holds) {ends : Ends} {a' b' : Option α}
    (ha : ∀ x, a = some x → a' = some x) (hb : ∀ x, b = some x → b' = some x)
    (hends : HoldAtEnds equal holds ends a' b') : HoldAtEnds equal holds ends a b := by
  cases ends with
  | single t => exact fun x hx => hends x (ha x hx)
  | pair t u =>
    cases a with
    | none =>
      cases b with
      | none => trivial
      | some y =>
        obtain rfl := hb y rfl
        cases a' with
        | none => exact hends
        | some x => exact (hends.exchange h).either
    | some x =>
      obtain rfl := ha x rfl
      cases b with
      | none =>
        cases b' with
        | none => exact hends
        | some y => exact hends.either
      | some y =>
        obtain rfl := hb y rfl
        exact hends

/-- Two constraints that hold still do when both are widened, unless they were equal and are no
longer: then they hold where each end is within one of the two. -/
theorem HoldAtEnds.widened_iff {a b a' b' : α} (h : Interchangeable equal holds)
    (ha : ∀ t, holds a t → holds a' t) (hb : ∀ t, holds b t → holds b' t)
    (hab : HoldAtEnds equal holds (.pair t u) (some a) (some b)) :
    HoldAtEnds equal holds (.pair t u) (some a') (some b') ↔
      (equal a b → ¬ equal a' b' → (holds a' t ∨ holds b' t) ∧ (holds a' u ∨ holds b' u)) := by
  by_cases he' : equal a' b'
  · -- Equal constraints are one, which holds where the narrower one does.
    have hone : holds a' t ∨ holds a' u := (hab.either).imp (ha t) (ha u)
    simp [HoldAtEnds, he', hone]
  · rcases hab with ⟨he, hx⟩ | ⟨hne, hx⟩
    · have hboth : ∀ v, holds a v → holds a' v ∧ holds b' v := fun v hv =>
        ⟨ha v hv, hb v ((h.holds_iff a b he v).1 hv)⟩
      have hend : holds a' t ∧ holds b' t ∨ holds a' u ∧ holds b' u := hx.imp (hboth t) (hboth u)
      simp only [HoldAtEnds, he, he', false_and, false_or, not_false_eq_true, true_and, forall_const]
      tauto
    · have hwide : (holds a' t ∧ holds b' u) ∨ (holds b' t ∧ holds a' u) :=
        hx.imp (And.imp (ha t) (hb u)) (And.imp (hb t) (ha u))
      simp [HoldAtEnds, hne, he', hwide]

end

/-! ## Types with two ends -/

theorem HasEnds.exists_pair {net : Network} {i : Nat} {type : EquipmentType} {ends : Ends}
    (h : HasEnds net i type ends) (hdual : type.DualEnded) : ∃ t u, ends = .pair t u := by
  cases h with
  | injection htype ht => exact absurd hdual htype
  | branch htype ht hu => exact ⟨_, _, rfl⟩
  | hvdcLine hj hk ht hu => exact ⟨_, _, rfl⟩

/-! ## What is matched -/

section

variable [PatternEngine]

/-- Filters of one type that accept the same positions match the same elements. -/
theorem CompiledFilter.matching_eq_of_accepts {f g : CompiledFilter} (htype : f.type = g.type)
    {net : Network} (h : ∀ i, f.accepts net i = g.accepts net i) :
    f.matching net = g.matching net := by
  unfold matching
  rw [htype]
  simp only [h]

/-- A filter that accepts fewer positions matches fewer elements, in the same order. -/
theorem CompiledFilter.matching_sublist_of_accepts {f g : CompiledFilter} (htype : f.type = g.type)
    {net : Network} (h : ∀ i, f.accepts net i = true → g.accepts net i = true) :
    (f.matching net).Sublist (g.matching net) := by
  unfold matching
  rw [htype]
  exact (List.monotone_filter_right _ fun (p : Nat × Equipment) => h p.1).map _

end

end Filter

end GridOutage
