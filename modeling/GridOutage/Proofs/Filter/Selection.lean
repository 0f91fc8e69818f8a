import GridOutage.Proofs.Filter.Accepted
import GridOutage.Proofs.Filter.GlobLanguage
import GridOutage.Proofs.Network.Invariant
import Mathlib.Data.List.Nodup
import Mathlib.Data.List.Perm.Subperm

/-!
# What a filter selects

`Selects` says which nodes a description asks for, in terms of the ends of an element and of the
values found there, without measure points and conditions. `accepts_iff_selects` says that the
compiled filter accepts exactly those.

Conditions ask for some terminal at a point. What makes that the same as a test of the end is that
every point of an element has exactly one terminal (`exists_ends`, `HasEnds.atPoints`), which the
network's invariant gives. `compile_selects` puts it together for the networks of all attempts.
-/
namespace GridOutage.Filter

open Network (Terminal)

/-! ## The ends of an element -/

/-- One end, or two that are equal in standing. -/
inductive Ends where
  | single (t : Terminal)
  | pair (t u : Terminal)

/-- The terminals where filters look at an element of a type. A third terminal of a transformer is
none of them. -/
inductive HasEnds (net : Network) (i : Nat) : EquipmentType → Ends → Prop
  | injection {type : EquipmentType} {t : Terminal}
      (htype : type ∉ [.line, .twoWindingsTransformer, .threeWindingsTransformer, .hvdcLine])
      (ht : net.terminals i = [t]) : HasEnds net i type (.single t)
  | branch {type : EquipmentType} {t u : Terminal}
      (htype : type ∈ [.line, .twoWindingsTransformer, .threeWindingsTransformer])
      (ht : (net.terminals i).filter (·.side == .one) = [t])
      (hu : (net.terminals i).filter (·.side == .two) = [u]) : HasEnds net i type (.pair t u)
  | hvdcLine {j k : Nat} {t u : Terminal} (hj : net.station? i .one = some j)
      (hk : net.station? i .two = some k) (ht : net.terminals j = [t])
      (hu : net.terminals k = [u]) : HasEnds net i .hvdcLine (.pair t u)

/-! ## What a description asks for -/

namespace VoltageFilter

def Admits : VoltageFilter → Binary64 → Prop
  | .compare c b, v => c.holds v b = true
  | .range low high, v => low.le v = true ∧ v.le high = true

/-- The one voltage of a terminal is admitted. -/
def HoldsAt (net : Network) (f : VoltageFilter) (t : Terminal) : Prop :=
  ∃ v, net.nominalVoltage? t = some v ∧ f.Admits v

end VoltageFilter

/-- The terminal is in a country of the set. -/
def InCountries (net : Network) (s : CountrySet) (t : Terminal) : Prop :=
  ∃ c, net.country? t = some c ∧ c ∈ s.members

/-- Up to two constraints hold at the ends of an element. Of a single end only the first counts.
Of two ends one constraint may hold at either, and so may two equal ones; two different ones each
hold at an end of its own. -/
def HoldAtEnds {α : Type} (equal : α → α → Prop) (holds : α → Terminal → Prop) :
    Ends → Option α → Option α → Prop
  | .single t, a, _ => ∀ x, a = some x → holds x t
  | .pair _ _, none, none => True
  | .pair t u, some a, none => holds a t ∨ holds a u
  | .pair t u, none, some a => holds a t ∨ holds a u
  | .pair t u, some a, some b =>
    (equal a b ∧ (holds a t ∨ holds a u)) ∨
      (¬ equal a b ∧ ((holds a t ∧ holds b u) ∨ (holds b t ∧ holds a u)))

namespace FilterSpec

/-- The identifier is as asked, or there is a name and it is as asked. -/
def IdentityMet (s : FilterSpec) (e : Equipment) : Prop :=
  (∀ p, s.idPattern = some p → Glob.Language p.toList e.id.toList) ∨
    ∃ n, e.name = some n ∧ ∀ p, s.namePattern = some p → Glob.Language p.toList n.toList

/-- The node is an element that the description asks for. -/
def Selects (s : FilterSpec) (net : Network) (i : Nat) : Prop :=
  ∃ e ends, net.equipmentAt? i = some e ∧ e.kind = .equipment s.type ∧ HasEnds net i s.type ends ∧
    HoldAtEnds (fun f g => f.same g = true) (VoltageFilter.HoldsAt net) ends s.voltage1 s.voltage2 ∧
    s.IdentityMet e ∧
    HoldAtEnds (fun a b => ∀ c, c ∈ a.members ↔ c ∈ b.members) (InCountries net) ends
      (givenCountries s.countries1) (givenCountries s.countries2)

end FilterSpec

/-! ## Every element has its ends -/

theorem exists_filter_eq_singleton {α β : Type} [BEq β] [LawfulBEq β] {l : List α} {f : α → β} {b : β}
    (hn : (l.map f).Nodup) (hb : b ∈ l.map f) : ∃ a, l.filter (f · == b) = [a] := by
  have hc := List.count_eq_one_of_mem hn hb
  rw [List.count, List.countP_map] at hc
  rw [← List.length_eq_one_iff, ← List.countP_eq_length_filter]
  exact hc

theorem exists_ends {net : Network} {log : List Network.Step} (h : net.Built log) {i : Nat}
    {e : Equipment} {type : EquipmentType} (he : net.equipmentAt? i = some e)
    (hk : e.kind = .equipment type) : ∃ ends, HasEnds net i type ends := by
  have one_terminal {j : Nat} {a : Equipment} (ha : net.equipmentAt? j = some a)
      (hcount : a.kind.terminalCount = 1) : ∃ t, net.terminals j = [t] := by
    have hs := congrArg List.length (h.resolves.sides j a ha)
    rw [hcount, List.length_map] at hs
    exact List.length_eq_one_iff.1 hs
  by_cases hdc : type = .hvdcLine
  · subst hdc
    obtain ⟨j, a, hj, ha, hak⟩ := h.resolves.stations i e he hk .one (by simp)
    obtain ⟨k, b, hk', hb, hbk⟩ := h.resolves.stations i e he hk .two (by simp)
    obtain ⟨t, ht⟩ := one_terminal ha (by rw [hak]; rfl)
    obtain ⟨u, hu⟩ := one_terminal hb (by rw [hbk]; rfl)
    exact ⟨_, .hvdcLine hj hk' ht hu⟩
  by_cases hbr : type ∈ [.line, .twoWindingsTransformer, .threeWindingsTransformer]
  · -- Two or three sides, of which the first two are one each.
    have hs := h.resolves.sides i e he
    have hsides : e.kind.terminalCount = 2 ∨ e.kind.terminalCount = 3 := by
      rw [hk]
      simp only [List.mem_cons, List.not_mem_nil, or_false] at hbr
      rcases hbr with rfl | rfl | rfl <;> decide
    have hn : ((net.terminals i).map Terminal.side).Nodup := by
      rw [hs]
      rcases hsides with hc | hc <;> rw [hc] <;> decide
    have hmem : ∀ side ∈ [Side.one, Side.two], side ∈ (net.terminals i).map Terminal.side := by
      rw [hs]
      rcases hsides with hc | hc <;> rw [hc] <;> decide
    obtain ⟨t, ht⟩ := exists_filter_eq_singleton hn (hmem .one (by simp))
    obtain ⟨u, hu⟩ := exists_filter_eq_singleton hn (hmem .two (by simp))
    exact ⟨_, .branch hbr ht hu⟩
  · have hcount : e.kind.terminalCount = 1 := by
      rw [hk]
      cases type <;> simp_all [ElementKind.terminalCount]
    obtain ⟨t, ht⟩ := one_terminal he hcount
    exact ⟨_, .injection (by simp_all) ht⟩

/-- The ends of an element are determined. -/
theorem HasEnds.unique {net : Network} {i : Nat} {type : EquipmentType} {x y : Ends}
    (hx : HasEnds net i type x) (hy : HasEnds net i type y) : x = y := by
  cases hx with
  | injection htype ht =>
    cases hy with
    | injection _ ht' => simp_all
    | branch htype' _ _ => simp_all
    | hvdcLine _ _ _ _ => simp at htype
  | branch htype ht hu =>
    cases hy with
    | injection htype' _ => simp_all
    | branch _ ht' hu' => simp_all
    | hvdcLine _ _ _ _ => simp at htype
  | hvdcLine hj hk ht hu =>
    cases hy with
    | injection htype' _ => simp at htype'
    | branch htype' _ _ => simp at htype'
    | hvdcLine hj' hk' ht' hu' => simp_all

/-! ## Points and ends -/

/-- The points of an element are where its ends are, with one terminal each. -/
def AtPoints (net : Network) (i : Nat) : MeasurePoints → Ends → Prop
  | .single p, .single t => p.terminals net i = [t]
  | .dual p q, .pair t u => p.terminals net i = [t] ∧ q.terminals net i = [u]
  | .single _, .pair _ _ => False
  | .dual _ _, .single _ => False

theorem HasEnds.atPoints {net : Network} {i : Nat} {type : EquipmentType} {ends : Ends}
    (h : HasEnds net i type ends) : AtPoints net i type.shape.points ends := by
  cases h with
  | @injection _ t htype ht =>
    have hshape : type.shape = .injection := by cases type <;> simp_all [EquipmentType.shape]
    rw [hshape]
    exact ht
  | @branch _ t u htype ht hu =>
    have hshape : type.shape = .branch := by cases type <;> simp_all [EquipmentType.shape]
    have find (side : Side) (t : Terminal) (ht : (net.terminals i).filter (·.side == side) = [t]) :
        (net.terminal? i side).toList = [t] := by
      rw [Network.terminal?, ← List.head?_filter, ht]
      rfl
    rw [hshape]
    exact ⟨find .one t ht, find .two u hu⟩
  | hvdcLine hj hk ht hu =>
    refine ⟨?_, ?_⟩
    · simp [MeasurePoint.terminals, hj, ht]
    · simp [MeasurePoint.terminals, hk, hu]

/-- Country sets are the same when they have the same members. -/
theorem CountrySet.same_iff {s t : CountrySet} :
    s.same t = true ↔ ∀ c, c ∈ s.members ↔ c ∈ t.members := by
  simp only [CountrySet.same, Bool.and_eq_true, beq_iff_eq, List.all_eq_true, CountrySet.contains,
    List.contains_iff_mem]
  constructor
  · intro h c
    obtain ⟨hlen, hsub⟩ := h
    have hperm : s.members.Perm t.members :=
      (s.nodup.subperm hsub).perm_of_length_le (Nat.le_of_eq hlen.symm)
    exact hperm.mem_iff
  · intro h
    have hperm := (List.perm_ext_iff_of_nodup s.nodup t.nodup).2 h
    exact ⟨hperm.length_eq, fun c hc => (h c).1 hc⟩

/-! ## Conditions at a terminal -/

section

variable [PatternEngine]
variable {net : Network} {i : Nat} {e : Equipment} {p q : MeasurePoint} {t u : Terminal}

theorem voltageHolds_iff (ht : p.terminals net i = [t]) (c : Comparison) (b : Binary64) :
    (Condition.voltage p c b).holds net i e = true ↔
      ∃ v, net.nominalVoltage? t = some v ∧ c.holds v b = true := by
  rw [Condition.holds, Condition.voltageHolds, ht, List.any_cons, List.any_nil, Bool.or_false,
    Option.any_eq_true]

theorem conditionAt_holds_iff (ht : p.terminals net i = [t]) (f : VoltageFilter) :
    (f.conditionAt p).holds net i e = true ↔ f.HoldsAt net t := by
  cases f with
  | compare c b => exact voltageHolds_iff ht c b
  | range low high =>
    -- Two tests of some terminal are one test of both, for there is just one terminal.
    rw [VoltageFilter.conditionAt, Condition.holds, Condition.allHold_eq, List.all_cons, List.all_cons,
      List.all_nil, Bool.and_true, Bool.and_eq_true, voltageHolds_iff ht, voltageHolds_iff ht]
    constructor
    · intro h
      obtain ⟨⟨v, hv, hlow⟩, w, hw, hhigh⟩ := h
      obtain rfl : v = w := by rw [hv] at hw; exact Option.some.inj hw
      exact ⟨v, hv, hlow, hhigh⟩
    · intro h
      obtain ⟨v, hv, hlow, hhigh⟩ := h
      exact ⟨⟨v, hv, hlow⟩, v, hv, hhigh⟩

theorem locatedAt_holds_iff (ht : p.terminals net i = [t]) (s : CountrySet) :
    (locatedAt s p).holds net i e = true ↔ InCountries net s t := by
  rw [locatedAt, Condition.holds, Condition.locatedHolds, ht, List.any_cons, List.any_nil,
    Bool.or_false, Option.any_eq_true]
  simp [InCountries, CountrySet.contains]

/-- A condition that may be missing. -/
def Met (net : Network) (i : Nat) (e : Equipment) (c : Option Condition) : Prop :=
  ∀ d, c = some d → d.holds net i e = true

/-- Constraints at two points are constraints at the two ends there. -/
theorem eitherEnd_met_iff {α : Type} {same : α → α → Bool} {place : α → MeasurePoint → Condition}
    {holds : α → Terminal → Prop} {equal : α → α → Prop}
    (hsame : ∀ a b, same a b = true ↔ equal a b)
    (hp : ∀ a, (place a p).holds net i e = true ↔ holds a t)
    (hq : ∀ a, (place a q).holds net i e = true ↔ holds a u) (a b : Option α) :
    Met net i e (eitherEnd same place p q a b) ↔ HoldAtEnds equal holds (.pair t u) a b := by
  have either (x : α) : (Condition.any [place x p, place x q]).holds net i e = true ↔
      holds x t ∨ holds x u := by
    simp [Condition.holds, hp, hq]
  cases a with
  | none =>
    cases b with
    | none => simp [Met, eitherEnd, HoldAtEnds]
    | some b => simp [Met, eitherEnd, HoldAtEnds, either]
  | some a =>
    cases b with
    | none => simp [Met, eitherEnd, HoldAtEnds, either]
    | some b =>
      by_cases hs : same a b = true
      · simp [Met, eitherEnd, HoldAtEnds, either, hs, (hsame a b).1 hs]
      · have he : ¬ equal a b := fun h => hs ((hsame a b).2 h)
        simp [Met, eitherEnd, HoldAtEnds, hs, he, Condition.holds, hp, hq]

end

/-! ## The three conditions of a filter -/

section

variable [PatternEngine]
variable {net : Network} {i : Nat} {e : Equipment} {type : EquipmentType} {ends : Ends}

theorem voltage_met_iff (h : HasEnds net i type ends) (f g : Option VoltageFilter) :
    Met net i e (voltageCondition type.shape f g) ↔
      HoldAtEnds (fun f g => f.same g = true) (VoltageFilter.HoldsAt net) ends f g := by
  have hpoints := h.atPoints
  unfold voltageCondition
  cases hs : type.shape.points with
  | single p =>
    rw [hs] at hpoints
    cases ends with
    | single t => cases f <;> simp [Met, HoldAtEnds, conditionAt_holds_iff hpoints]
    | pair t u => exact hpoints.elim
  | dual p q =>
    rw [hs] at hpoints
    cases ends with
    | single t => exact hpoints.elim
    | pair t u =>
      exact eitherEnd_met_iff (fun _ _ => Iff.rfl) (conditionAt_holds_iff hpoints.1)
        (conditionAt_holds_iff hpoints.2) f g

theorem country_met_iff (h : HasEnds net i type ends) (s₁ s₂ : CountrySet) :
    Met net i e (countryCondition type s₁ s₂) ↔
      HoldAtEnds (fun a b => ∀ c, c ∈ a.members ↔ c ∈ b.members) (InCountries net) ends
        (givenCountries s₁) (givenCountries s₂) := by
  have hpoints := h.atPoints
  unfold countryCondition
  cases hs : type.shape.points with
  | single p =>
    rw [hs] at hpoints
    cases ends with
    | single t => cases givenCountries s₁ <;> simp [Met, HoldAtEnds, locatedAt_holds_iff hpoints]
    | pair t u => exact hpoints.elim
  | dual p q =>
    rw [hs] at hpoints
    cases ends with
    | single t => exact hpoints.elim
    | pair t u =>
      have hsame : ∀ a b : CountrySet, a.same b = true ↔ ∀ c, c ∈ a.members ↔ c ∈ b.members :=
        fun _ _ => CountrySet.same_iff
      rw [← eitherEnd_met_iff (e := e) hsame (locatedAt_holds_iff hpoints.1)
        (locatedAt_holds_iff hpoints.2) (givenCountries s₁) (givenCountries s₂)]
      -- The function that scripts call for the countries has the meaning of its body.
      simp [Met, Condition.holds]

/-- Patterns within the size limit. -/
def FilterSpec.PatternsFit (s : FilterSpec) : Prop :=
  ∀ p, s.idPattern = some p ∨ s.namePattern = some p → (Glob.mk p).oversized = false

/-- The pattern that a missing one stands for. -/
def patternOf (p : Option String) : Glob := (p.map Glob.mk).getD .any

theorem patternOf_oversized {p : Option String}
    (hfit : ∀ q, p = some q → (Glob.mk q).oversized = false) : (patternOf p).oversized = false := by
  cases p with
  | none => exact Glob.any_oversized
  | some q => exact hfit q rfl

/-- A missing pattern accepts every text, a given one those of its language. -/
theorem patternOf_accepts_iff {p : Option String}
    (hfit : ∀ q, p = some q → (Glob.mk q).oversized = false) {text : String} :
    (patternOf p).accepts text = true ↔ ∀ q, p = some q → Glob.Language q.toList text.toList := by
  cases p with
  | none =>
    have hany : Glob.any.accepts text = true :=
      Glob.accepts_of_acceptsEverything Glob.any_oversized (by decide) text
    simpa [patternOf] using hany
  | some q => simp [patternOf, Glob.accepts_iff_language (hfit q rfl)]

/-- The condition on identity is one on the two texts, whatever the sizes of the patterns. -/
theorem identity_met_iff_patterns {idPattern namePattern : Option String} :
    Met net i e (identityCondition idPattern namePattern) ↔
      (patternOf idPattern).acceptsEverything = true ∨ (patternOf idPattern).accepts e.id = true ∨
        Condition.nameHolds e (patternOf namePattern) = true := by
  change Met net i e (if (patternOf idPattern).acceptsEverything then none
    else some (.any [.id (patternOf idPattern), .name (patternOf namePattern)])) ↔ _
  split
  · next hall => simp [Met, hall]
  · next hsome => simp [Met, hsome, Condition.holds]

theorem identity_met_iff {s : FilterSpec} (hfit : s.PatternsFit) :
    Met net i e (identityCondition s.idPattern s.namePattern) ↔ s.IdentityMet e := by
  have hid : (patternOf s.idPattern).accepts e.id = true ↔
      ∀ p, s.idPattern = some p → Glob.Language p.toList e.id.toList :=
    patternOf_accepts_iff fun p hp => hfit p (.inl hp)
  have hname {n : String} : (patternOf s.namePattern).accepts n = true ↔
      ∀ p, s.namePattern = some p → Glob.Language p.toList n.toList :=
    patternOf_accepts_iff fun p hp => hfit p (.inr hp)
  -- Without a condition the identifier is as asked, whatever it is.
  have hall : (patternOf s.idPattern).acceptsEverything = true →
      (patternOf s.idPattern).accepts e.id = true :=
    fun h => Glob.accepts_of_acceptsEverything (patternOf_oversized fun p hp => hfit p (.inl hp)) h _
  rw [identity_met_iff_patterns, ← or_assoc, or_iff_right_of_imp hall, FilterSpec.IdentityMet, ← hid]
  simp [Condition.nameHolds, Option.any_eq_true, hname]

end

/-! ## The compiled filter -/

section

variable [PatternEngine]

/-- All conditions of a filter hold when each of the three does that there is. -/
theorem CompiledFilter.accepts_iff {f : CompiledFilter} {net : Network} {i : Nat} :
    f.accepts net i = true ↔
      ∃ e, net.equipmentAt? i = some e ∧ e.kind = .equipment f.type ∧
        Met net i e f.voltage ∧ Met net i e f.identity ∧ Met net i e f.country := by
  unfold accepts conditions
  cases net.equipmentAt? i with
  | none => simp
  | some e => simp [Met, List.all_append, List.all_eq_true]

/-- What the compiled filter asks of an element, said of its ends. -/
theorem accepts_iff_ends {s : FilterSpec} {net : Network} {log : List Network.Step}
    (h : net.Built log) {i : Nat} :
    s.compiled.accepts net i = true ↔
      ∃ e ends, net.equipmentAt? i = some e ∧ e.kind = .equipment s.type ∧
        HasEnds net i s.type ends ∧
        HoldAtEnds (fun f g => f.same g = true) (VoltageFilter.HoldsAt net) ends s.voltage1
          s.voltage2 ∧
        Met net i e (identityCondition s.idPattern s.namePattern) ∧
        HoldAtEnds (fun a b => ∀ c, c ∈ a.members ↔ c ∈ b.members) (InCountries net) ends
          (givenCountries s.countries1) (givenCountries s.countries2) := by
  rw [CompiledFilter.accepts_iff]
  constructor
  · intro haccepts
    obtain ⟨e, he, hk, hvoltage, hidentity, hcountry⟩ := haccepts
    obtain ⟨ends, hends⟩ := exists_ends h he hk
    exact ⟨e, ends, he, hk, hends, (voltage_met_iff hends _ _).1 hvoltage, hidentity,
      (country_met_iff hends _ _).1 hcountry⟩
  · intro hends
    obtain ⟨e, ends, he, hk, hends, hvoltage, hidentity, hcountry⟩ := hends
    exact ⟨e, he, hk, (voltage_met_iff hends _ _).2 hvoltage, hidentity,
      (country_met_iff hends _ _).2 hcountry⟩

theorem accepts_iff_selects {s : FilterSpec} (hfit : s.PatternsFit) {net : Network}
    {log : List Network.Step} (h : net.Built log) {i : Nat} :
    s.compiled.accepts net i = true ↔ s.Selects net i := by
  simp only [accepts_iff_ends h, identity_met_iff hfit, FilterSpec.Selects]

/-- An accepted description compiles, on whatever network of whatever attempts an element of its
type has its ends and no others, and the filter accepts the nodes that the description asks for. -/
theorem compile_selects {s : FilterSpec} (h : s.Accepted) (hfit : s.PatternsFit) :
    ∃ f, s.compile = .ok f ∧ ∀ (steps : List Network.Step) (i : Nat),
      (∀ e, (Network.run steps).equipmentAt? i = some e → e.kind = .equipment s.type →
        ∃! ends, HasEnds (Network.run steps) i s.type ends) ∧
      (f.accepts (Network.run steps) i = true ↔ s.Selects (Network.run steps) i) := by
  refine ⟨s.compiled, h.compile, fun steps i => ⟨?_, ?_⟩⟩
  · intro e he hk
    obtain ⟨ends, hends⟩ := exists_ends (Network.built_run steps) he hk
    exact ⟨ends, hends, fun other hother => hother.unique hends⟩
  · exact accepts_iff_selects hfit (Network.built_run steps)

end

/-- Lines between France and Germany with an end from 100 to 300 kilovolts and another from 350. -/
def interconnectors : FilterSpec :=
  ((((FilterSpec.withIdPattern { type := .line } "L?*").withVoltage1
    (.range (.ofInt 100) (.ofInt 300))).withVoltage2
      (.compare .greaterOrEqual (.ofInt 350))).withCountries1 ⟨[⟨5, 17⟩], by decide⟩).withCountries2
        ⟨[⟨3, 4⟩], by decide⟩

theorem accepted_interconnectors : interconnectors.Accepted :=
  .withCountries2 (.withCountries1 (.withVoltage2 (.withVoltage1 (.withIdPattern (.new .line) _)
    (by decide +kernel)) (by decide +kernel)) _) _

/-- A line from Germany at 380 kilovolts to France at 225. -/
def border : List Network.Step :=
  [.substation { id := "DE", country := some ⟨3, 4⟩ },
    .voltageLevel "DE" { id := "DE380", nominal := .ofInt 380 },
    .substation { id := "FR", country := some ⟨5, 17⟩ },
    .voltageLevel "FR" { id := "FR225", nominal := .ofInt 225 },
    .equipment { id := "L12", kind := .equipment .line } ["DE380", "FR225"]]

theorem compile_selects_interconnectors :
    interconnectors.Accepted ∧ interconnectors.PatternsFit ∧
      interconnectors.Selects (Network.run border) 4 := by
  have haccepted := accepted_interconnectors
  have hfit : interconnectors.PatternsFit := by
    intro p hp
    rcases hp with hp | hp
    · have hid : interconnectors.idPattern = some "L?*" := by decide
      obtain rfl := Option.some.inj (hp.symm.trans hid)
      decide
    · cases hp
  obtain ⟨f, hf, hselects⟩ := compile_selects haccepted hfit
  obtain rfl : interconnectors.compiled = f := Except.ok.inj (haccepted.compile.symm.trans hf)
  exact ⟨haccepted, hfit, (hselects border 4).2.1 (by decide +kernel)⟩

end GridOutage.Filter
