import GridOutage.Proofs.Filter.Ends

/-!
# More criteria and wider ones

A description that asks for more selects no other elements (`completed_matches_fewer`), although the
compiled conditions change their shape with the fields that are given: one constraint may hold at
either end, a second one takes an end of its own, and a name pattern stands beside the identifier's
as an alternative.

Allowing more countries at both ends keeps what was selected, with one exception, and
`widened_matches_more` says what remains there. Sets with the same members are one constraint, which
may hold at either end; once they differ, each end has to be in a country of one of the two
(`widened_loses_border`).
-/
namespace GridOutage.Filter

open Network (Step Terminal)

theorem givenCountries_eq_some_iff {s cs : CountrySet} :
    givenCountries s = some cs ↔ s.isEmpty = false ∧ s = cs := by
  unfold givenCountries
  split <;> simp_all

/-! ## More criteria -/

/-- Any name will do for a pattern that is missing. -/
theorem nameHolds_missing [PatternEngine] {e : Equipment} {g : Glob}
    (h : Condition.nameHolds e g = true) :
    Condition.nameHolds e (patternOf none) = true := by
  rw [Condition.nameHolds, Option.any_eq_true] at h ⊢
  obtain ⟨n, hn, -⟩ := h
  exact ⟨n, hn, (patternOf_accepts_iff (by simp)).2 (by simp)⟩

namespace FilterSpec

/-- The second description has every field that is given in the first, and it may give others. -/
structure CompletedBy (s t : FilterSpec) : Prop where
  type_eq : t.type = s.type
  idPattern : ∀ p, s.idPattern = some p → t.idPattern = some p
  namePattern : ∀ p, s.namePattern = some p → t.namePattern = some p
  voltage1 : ∀ f, s.voltage1 = some f → t.voltage1 = some f
  voltage2 : ∀ f, s.voltage2 = some f → t.voltage2 = some f
  countries1 : s.countries1.isEmpty = false → t.countries1 = s.countries1
  countries2 : s.countries2.isEmpty = false → t.countries2 = s.countries2

section

variable [PatternEngine] {s t : FilterSpec} {net : Network} {i : Nat} (h : s.CompletedBy t)

include h

theorem CompletedBy.identity_met {e : Equipment}
    (hmet : Met net i e (identityCondition t.idPattern t.namePattern)) :
    Met net i e (identityCondition s.idPattern s.namePattern) := by
  rw [identity_met_iff_patterns] at hmet ⊢
  cases hid : s.idPattern with
  | none => exact .inl (by decide)
  | some p =>
    rw [h.idPattern p hid] at hmet
    refine hmet.imp_right (Or.imp_right fun hname => ?_)
    cases hn : s.namePattern with
    | none => exact nameHolds_missing hname
    | some q => rwa [h.namePattern q hn] at hname

theorem CompletedBy.accepts {log : List Step} (hnet : net.Built log)
    (hi : t.compiled.accepts net i = true) : s.compiled.accepts net i = true := by
  have given {a b : CountrySet} (hab : a.isEmpty = false → b = a) (cs : CountrySet)
      (ha : givenCountries a = some cs) : givenCountries b = some cs := by
    rw [hab (givenCountries_eq_some_iff.1 ha).1]
    exact ha
  obtain ⟨e, ends, he, hk, hends, hvoltage, hidentity, hcountry⟩ := (accepts_iff_ends hnet).1 hi
  rw [h.type_eq] at hk hends
  refine (accepts_iff_ends hnet).2 ⟨e, ends, he, hk, hends, ?_, h.identity_met hidentity, ?_⟩
  · exact hvoltage.drop (interchangeable_voltages net) h.voltage1 h.voltage2
  · exact hcountry.drop (interchangeable_countries net) (given h.countries1) (given h.countries2)

end

end FilterSpec

/-- Filling in fields of a description that were not given adds no match. -/
theorem completed_matches_fewer [PatternEngine] {s t : FilterSpec} (hs : s.Accepted)
    (ht : t.Accepted) (h : s.CompletedBy t) :
    ∃ f g, s.compile = .ok f ∧ t.compile = .ok g ∧ ∀ steps : List Step,
      (∀ i, g.accepts (Network.run steps) i = true → f.accepts (Network.run steps) i = true) ∧
        (g.matching (Network.run steps)).Sublist (f.matching (Network.run steps)) := by
  refine ⟨s.compiled, t.compiled, hs.compile, ht.compile, fun steps => ?_⟩
  have haccepts : ∀ i, t.compiled.accepts (Network.run steps) i = true →
      s.compiled.accepts (Network.run steps) i = true := fun i =>
    h.accepts (Network.built_run steps)
  exact ⟨haccepts, CompiledFilter.matching_sublist_of_accepts h.type_eq haccepts⟩

theorem completed_matches_fewer_border :
    (FilterSpec.withIdPattern { type := .line } "L?*").Accepted ∧ interconnectors.Accepted ∧
      (FilterSpec.withIdPattern { type := .line } "L?*").CompletedBy interconnectors ∧
      ∃ f, (FilterSpec.withIdPattern { type := .line } "L?*").compile = .ok f ∧
        f.accepts (Network.run border) 4 = true := by
  have hlines : (FilterSpec.withIdPattern { type := .line } "L?*").Accepted :=
    .withIdPattern (.new .line) _
  have hcompleted :
      (FilterSpec.withIdPattern { type := .line } "L?*").CompletedBy interconnectors := by
    constructor <;> decide +kernel
  obtain ⟨f, g, hf, hg, hfewer⟩ :=
    completed_matches_fewer hlines accepted_interconnectors hcompleted
  obtain rfl : interconnectors.compiled = g :=
    Except.ok.inj (accepted_interconnectors.compile.symm.trans hg)
  exact ⟨hlines, accepted_interconnectors, hcompleted, f, hf,
    (hfewer border).1 4 (by decide +kernel)⟩

/-! ## Wider criteria -/

theorem InCountries.mono {net : Network} {a b : CountrySet} (h : ∀ c ∈ a.members, c ∈ b.members)
    {t : Terminal} (ht : InCountries net a t) : InCountries net b t := by
  obtain ⟨c, hc, hmem⟩ := ht
  exact ⟨c, hc, h c hmem⟩

/-- Each end of the element is in a country of one of the sets. -/
def BothEndsIn (net : Network) (i : Nat) (type : EquipmentType) (a b : CountrySet) : Prop :=
  ∃ t u, HasEnds net i type (.pair t u) ∧ (InCountries net a t ∨ InCountries net b t) ∧
    (InCountries net a u ∨ InCountries net b u)

theorem HasEnds.bothEndsIn_iff {net : Network} {i : Nat} {type : EquipmentType} {t u : Terminal}
    (h : HasEnds net i type (.pair t u)) {a b : CountrySet} :
    BothEndsIn net i type a b ↔ (InCountries net a t ∨ InCountries net b t) ∧
      (InCountries net a u ∨ InCountries net b u) := by
  constructor
  · intro hends
    obtain ⟨t', u', h', hin⟩ := hends
    obtain ⟨rfl, rfl⟩ := Ends.pair.inj (h.unique h')
    exact hin
  · intro hin
    exact ⟨t, u, h, hin⟩

namespace FilterSpec

/-- The description has countries for both sides, and the sets have those and maybe more. -/
structure WidenedBy (s : FilterSpec) (a b : CountrySet) : Prop where
  given1 : s.countries1.isEmpty = false
  given2 : s.countries2.isEmpty = false
  subset1 : ∀ c ∈ s.countries1.members, c ∈ a.members
  subset2 : ∀ c ∈ s.countries2.members, c ∈ b.members

/-- A set that contains one with members has members. -/
theorem isEmpty_eq_false_of_subset {a b : CountrySet} (h : ∀ c ∈ a.members, c ∈ b.members)
    (ha : a.isEmpty = false) : b.isEmpty = false := by
  rw [CountrySet.isEmpty, List.isEmpty_eq_false_iff_exists_mem] at ha ⊢
  exact ha.imp h

theorem WidenedBy.accepts_iff [PatternEngine] {s : FilterSpec} {a b : CountrySet}
    (h : s.WidenedBy a b) (hdual : s.type.DualEnded) {net : Network} {log : List Step}
    (hnet : net.Built log) {i : Nat} (hi : s.compiled.accepts net i = true) :
    ((s.withCountries1 a).withCountries2 b).compiled.accepts net i = true ↔
      (s.countries1.same s.countries2 = true → a.same b = false →
        BothEndsIn net i s.type a b) := by
  obtain ⟨e, ends, he, hk, hends, hvoltage, hidentity, hcountry⟩ := (accepts_iff_ends hnet).1 hi
  obtain ⟨t, u, rfl⟩ := hends.exists_pair hdual
  rw [givenCountries_eq_some_iff.2 ⟨h.given1, rfl⟩, givenCountries_eq_some_iff.2 ⟨h.given2, rfl⟩]
    at hcountry
  have ha : givenCountries a = some a :=
    givenCountries_eq_some_iff.2 ⟨isEmpty_eq_false_of_subset h.subset1 h.given1, rfl⟩
  have hb : givenCountries b = some b :=
    givenCountries_eq_some_iff.2 ⟨isEmpty_eq_false_of_subset h.subset2 h.given2, rfl⟩
  -- Of what is asked only the countries have changed.
  have haccepts : ((s.withCountries1 a).withCountries2 b).compiled.accepts net i = true ↔
      HoldAtEnds (fun a b => ∀ c, c ∈ a.members ↔ c ∈ b.members) (InCountries net) (.pair t u)
        (some a) (some b) := by
    rw [accepts_iff_ends hnet, ← ha, ← hb]
    constructor
    · intro hwide
      obtain ⟨e', ends', -, -, hends', -, -, hcountry'⟩ := hwide
      exact hends'.unique hends ▸ hcountry'
    · intro hcountry'
      exact ⟨e, _, he, hk, hends, hvoltage, hidentity, hcountry'⟩
  rw [haccepts, hcountry.widened_iff (interchangeable_countries net) (fun _ => .mono h.subset1)
    (fun _ => .mono h.subset2), hends.bothEndsIn_iff, ← Bool.not_eq_true, CountrySet.same_iff,
    CountrySet.same_iff]

end FilterSpec

/-- With more countries on both sides every match remains, unless the two sets had the same members
and no longer have. Then those remain whose ends are both in the countries of the two. -/
theorem widened_matches_more [PatternEngine] {s : FilterSpec} (hs : s.Accepted)
    (hdual : s.type.DualEnded) {a b : CountrySet} (h : s.WidenedBy a b) :
    ∃ f g, s.compile = .ok f ∧ ((s.withCountries1 a).withCountries2 b).compile = .ok g ∧
      ((s.countries1.same s.countries2 = true → a.same b = true) → ∀ steps : List Step,
        (∀ i, f.accepts (Network.run steps) i = true → g.accepts (Network.run steps) i = true) ∧
          (f.matching (Network.run steps)).Sublist (g.matching (Network.run steps))) ∧
      (s.countries1.same s.countries2 = true → a.same b = false → ∀ (steps : List Step) (i : Nat),
        f.accepts (Network.run steps) i = true →
          (g.accepts (Network.run steps) i = true ↔
            BothEndsIn (Network.run steps) i s.type a b)) := by
  refine ⟨s.compiled, _, hs.compile, ((hs.withCountries1 a).withCountries2 b).compile, ?_, ?_⟩
  · intro hsame steps
    have haccepts : ∀ i, s.compiled.accepts (Network.run steps) i = true →
        ((s.withCountries1 a).withCountries2 b).compiled.accepts (Network.run steps) i = true := by
      intro i hi
      refine (h.accepts_iff hdual (Network.built_run steps) hi).2 fun heq hne => ?_
      exact absurd ((hsame heq).symm.trans hne) (by decide)
    have htype : s.compiled.type = ((s.withCountries1 a).withCountries2 b).compiled.type := rfl
    exact ⟨haccepts, CompiledFilter.matching_sublist_of_accepts htype haccepts⟩
  · intro heq hne steps i hi
    rw [h.accepts_iff hdual (Network.built_run steps) hi]
    exact ⟨fun hends => hends heq hne, fun hends _ _ => hends⟩

/-- Lines with an end in France, said of both sides. -/
def frenchLines : FilterSpec :=
  (FilterSpec.withCountries1 { type := .line } interconnectors.countries1).withCountries2
    interconnectors.countries1

theorem accepted_frenchLines : frenchLines.Accepted :=
  .withCountries2 (.withCountries1 (.new .line) _) _

/-- Once Germany is allowed on the second side, the line between the two remains. -/
theorem widened_matches_more_border :
    frenchLines.Accepted ∧ frenchLines.type.DualEnded ∧
      frenchLines.WidenedBy frenchLines.countries1 (frenchLines.countries2.insert ⟨3, 4⟩) ∧
      ∃ g, ((frenchLines.withCountries1 frenchLines.countries1).withCountries2
          (frenchLines.countries2.insert ⟨3, 4⟩)).compile = .ok g ∧
        g.accepts (Network.run border) 4 = true := by
  have hdual : frenchLines.type.DualEnded := by decide
  have hwidened :
      frenchLines.WidenedBy frenchLines.countries1 (frenchLines.countries2.insert ⟨3, 4⟩) := by
    constructor <;> decide
  obtain ⟨f, g, hf, hg, -, hsplit⟩ := widened_matches_more accepted_frenchLines hdual hwidened
  obtain rfl : frenchLines.compiled = f :=
    Except.ok.inj (accepted_frenchLines.compile.symm.trans hf)
  -- The end in Germany is in the second set, the one in France in both.
  have hends : BothEndsIn (Network.run border) 4 frenchLines.type frenchLines.countries1
      (frenchLines.countries2.insert ⟨3, 4⟩) :=
    ⟨⟨.one, 1⟩, ⟨.two, 3⟩, .branch (by decide) (by decide +kernel) (by decide +kernel),
      .inr ⟨⟨3, 4⟩, by decide +kernel, by decide⟩, .inl ⟨⟨5, 17⟩, by decide +kernel, by decide⟩⟩
  exact ⟨accepted_frenchLines, hdual, hwidened, g, hg,
    (hsplit (by decide) (by decide) border 4 (by decide +kernel)).2 hends⟩

/-- Once Belgium is allowed on the second side, the line between France and Germany is lost. -/
theorem widened_loses_border :
    frenchLines.Accepted ∧ frenchLines.type.DualEnded ∧
      frenchLines.WidenedBy frenchLines.countries1 (frenchLines.countries2.insert ⟨1, 4⟩) ∧
      ∃ f g, frenchLines.compile = .ok f ∧
        ((frenchLines.withCountries1 frenchLines.countries1).withCountries2
          (frenchLines.countries2.insert ⟨1, 4⟩)).compile = .ok g ∧
        (f.matching (Network.run border)).map Equipment.id = ["L12"] ∧
        g.matching (Network.run border) = [] := by
  refine ⟨accepted_frenchLines, by decide, by constructor <;> decide, _, _,
    accepted_frenchLines.compile,
    ((accepted_frenchLines.withCountries1 _).withCountries2 _).compile, ?_, ?_⟩
  · decide +kernel
  · decide +kernel

end GridOutage.Filter
