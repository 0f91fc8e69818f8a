import GridOutage.Proofs.Filter.Ends
import GridOutage.Proofs.Filter.Locality
import GridOutage.Proofs.Network.Turning

/-!
# Sides do not matter

Elements with two ends have no side that is first by nature. A description with the constraints of
the two sides exchanged (`FilterSpec.Exchanged`) therefore selects the same elements, and an element
that was added with its first two ends in the opposite order (`Network.Step.Turned`) gets the same
verdicts, as every other element does. `sides_immaterial` says both of every accepted description.

The second half compares two networks. Away from the turned element they are alike, so verdicts are
carried over by `CompiledFilter.accepts_eq`; at the element itself the ends of one network are those
of the other, exchanged (`HasEnds.turned`).
-/
namespace GridOutage.Filter

open Network (Step Terminal TurnedAt)

/-! ## Exchanged constraints -/

namespace FilterSpec

def exchangeVoltages (s : FilterSpec) : FilterSpec :=
  { s with voltage1 := s.voltage2, voltage2 := s.voltage1 }

def exchangeCountries (s : FilterSpec) : FilterSpec :=
  { s with countries1 := s.countries2, countries2 := s.countries1 }

/-- The voltages, the countries or both of a description are exchanged. -/
inductive Exchanged (s : FilterSpec) : FilterSpec → Prop
  | voltages : Exchanged s s.exchangeVoltages
  | countries : Exchanged s s.exchangeCountries
  | both : Exchanged s s.exchangeVoltages.exchangeCountries

theorem validate_exchangeVoltages {s : FilterSpec} (h : s.validate = .ok ()) :
    s.exchangeVoltages.validate = .ok () :=
  validate_eq_ok_iff.2 (validate_eq_ok_iff.1 h).symm

theorem Exchanged.compile {s t : FilterSpec} (h : s.Exchanged t) (hs : s.validate = .ok ()) :
    t.compile = .ok t.compiled := by
  refine compile_eq_ok_iff.2 ⟨?_, rfl⟩
  cases h with
  | voltages => exact validate_exchangeVoltages hs
  | countries => exact hs
  | both => exact validate_exchangeVoltages hs

section

variable [PatternEngine] {s : FilterSpec} {net : Network} {log : List Step} (h : net.Built log)
  (hdual : s.type.DualEnded)

include h hdual

theorem accepts_exchangeVoltages (i : Nat) :
    s.exchangeVoltages.compiled.accepts net i = s.compiled.accepts net i := by
  rw [Bool.eq_iff_iff, accepts_iff_ends h, accepts_iff_ends h]
  refine exists_congr fun e => exists_congr fun ends => and_congr_right fun _ =>
    and_congr_right fun _ => and_congr_right fun hends => and_congr_left fun _ => ?_
  obtain ⟨t, u, rfl⟩ := HasEnds.exists_pair hends hdual
  exact holdAtEnds_comm (interchangeable_voltages net)

theorem accepts_exchangeCountries (i : Nat) :
    s.exchangeCountries.compiled.accepts net i = s.compiled.accepts net i := by
  rw [Bool.eq_iff_iff, accepts_iff_ends h, accepts_iff_ends h]
  refine exists_congr fun e => exists_congr fun ends => and_congr_right fun _ =>
    and_congr_right fun _ => and_congr_right fun hends => and_congr_right fun _ =>
      and_congr_right fun _ => ?_
  obtain ⟨t, u, rfl⟩ := HasEnds.exists_pair hends hdual
  exact holdAtEnds_comm (interchangeable_countries net)

theorem Exchanged.accepts_eq {t : FilterSpec} (ht : s.Exchanged t) (i : Nat) :
    t.compiled.accepts net i = s.compiled.accepts net i := by
  cases ht with
  | voltages => exact accepts_exchangeVoltages h hdual i
  | countries => exact accepts_exchangeCountries h hdual i
  | both =>
    rw [accepts_exchangeCountries (s := s.exchangeVoltages) h hdual i,
      accepts_exchangeVoltages h hdual i]

end

theorem Exchanged.type_eq {s t : FilterSpec} (h : s.Exchanged t) : t.type = s.type := by
  cases h <;> rfl

end FilterSpec

/-! ## Turned elements -/

/-- A condition on identity looks at no network. -/
theorem identity_met_congr [PatternEngine] {net other : Network} {i j : Nat} {e : Equipment}
    {idPattern namePattern : Option String}
    (h : Met net i e (identityCondition idPattern namePattern)) :
    Met other j e (identityCondition idPattern namePattern) :=
  identity_met_iff_patterns.2 (identity_met_iff_patterns.1 h)

/-- The ends of an element are connected to nodes that were added before it. -/
theorem HasEnds.level_lt {net : Network} {log : List Step} (h : net.Built log) {i : Nat}
    {type : EquipmentType} {t u : Terminal} (hends : HasEnds net i type (.pair t u)) :
    t.level < i ∧ u.level < i := by
  have mem_side {side : Side} {t : Terminal}
      (ht : (net.terminals i).filter (·.side == side) = [t]) : t ∈ net.terminals i :=
    (List.mem_filter.1 (ht ▸ List.mem_singleton_self t)).1
  cases hends with
  | branch htype ht hu => exact ⟨h.level_lt (mem_side ht), h.level_lt (mem_side hu)⟩
  | hvdcLine hj hk ht hu =>
    have hlevel := h.level_lt (ht ▸ List.mem_singleton_self t)
    have hlevel' := h.level_lt (hu ▸ List.mem_singleton_self u)
    exact ⟨Nat.lt_trans hlevel (h.station_lt hj), Nat.lt_trans hlevel' (h.station_lt hk)⟩

/-- A third terminal is at neither of the first two sides. -/
theorem filter_one_two {i j : Nat} {third : List Terminal} (h : ∀ t ∈ third, t.side = .three) :
    (⟨.one, i⟩ :: ⟨.two, j⟩ :: third : List Terminal).filter (·.side == .one) = [⟨.one, i⟩] ∧
      (⟨.one, i⟩ :: ⟨.two, j⟩ :: third : List Terminal).filter (·.side == .two) = [⟨.two, j⟩] := by
  have hrest : ∀ side, side ≠ .three → third.filter (·.side == side) = [] := by
    intro side hside
    rw [List.filter_eq_nil_iff]
    intro t ht
    rw [h t ht, beq_iff_eq]
    exact hside.symm
  simp [hrest]

/-- The ends of a turned element are those of the element, exchanged. -/
theorem HasEnds.turned {net other : Network} {log : List Step} (h : net.Built log) {n : Nat}
    (hat : net.TurnedAt other n) (hterminals : ∀ i, i ≠ n → other.terminals i = net.terminals i)
    {e : Equipment} {type : EquipmentType} (he : net.equipmentAt? n = some e)
    (hk : e.kind = .equipment type) {ends : Ends} (hends : HasEnds net n type ends) :
    ∃ t u t' u', ends = .pair t u ∧ HasEnds other n type (.pair u' t') ∧
      t'.level = t.level ∧ u'.level = u.level := by
  cases hat with
  | @terminals e' i j third he' hk' hnet hother hthird =>
    obtain rfl : e = e' := Option.some.inj (he.symm.trans he')
    have hone {i j : Nat} := (filter_one_two (i := i) (j := j) hthird).1
    have htwo {i j : Nat} := (filter_one_two (i := i) (j := j) hthird).2
    cases hends with
    | injection htype ht =>
      rw [hnet] at ht
      cases ht
    | branch htype ht hu =>
      rw [hnet] at ht hu
      obtain rfl := List.singleton_inj.1 (hone.symm.trans ht)
      obtain rfl := List.singleton_inj.1 (htwo.symm.trans hu)
      refine ⟨_, _, ⟨.two, i⟩, ⟨.one, j⟩, rfl, .branch htype ?_ ?_, rfl, rfl⟩
      · exact hother ▸ hone
      · exact hother ▸ htwo
    | hvdcLine hj hk ht hu => exact absurd hk hk'
  | @stations e' i j he' hk' hnet hother =>
    obtain rfl : e = e' := Option.some.inj (he.symm.trans he')
    obtain rfl : type = .hvdcLine := ElementKind.equipment.inj (hk.symm.trans hk')
    cases hends with
    | injection htype ht => simp at htype
    | branch htype ht hu => simp at htype
    | @hvdcLine j' k' t u hj hk ht hu =>
      -- The stations were added before the line, so their terminals are the same.
      obtain rfl : i = j' := Option.some.inj (hnet.1.symm.trans hj)
      obtain rfl : j = k' := Option.some.inj (hnet.2.symm.trans hk)
      refine ⟨t, u, t, u, rfl, .hvdcLine hother.1 hother.2 ?_ ?_, rfl, rfl⟩
      · rw [hterminals j (Nat.ne_of_lt (h.station_lt hk)), hu]
      · rw [hterminals i (Nat.ne_of_lt (h.station_lt hj)), ht]

section

variable {net other : Network} {front rest : List Step} {step turned : Step}
  (hturned : step.Turned turned) (hnet : net.Built (front ++ step :: rest))
  (hother : other.Built (front ++ turned :: rest))

include hturned hnet hother

/-- What is known at a terminal is known at one that is connected to the same place. -/
theorem holdsAt_iff_of_turned {t t' : Terminal} (hlevel : t'.level = t.level)
    (ht : t.level ≠ front.length) (f : VoltageFilter) :
    f.HoldsAt net t ↔ f.HoldsAt other t' := by
  have halike := Network.alike_of_turned hturned hnet hother
  have hvoltage : net.nominalVoltage? t = other.nominalVoltage? t' :=
    halike.nominalVoltage?_eq (u := ⟨t.side, t'.level⟩) ⟨rfl, hlevel.symm, ht⟩
  rw [VoltageFilter.HoldsAt, VoltageFilter.HoldsAt, hvoltage]

theorem inCountries_iff_of_turned {t t' : Terminal} (hlevel : t'.level = t.level)
    (ht : t.level ≠ front.length) (s : CountrySet) :
    InCountries net s t ↔ InCountries other s t' := by
  have halike := Network.alike_of_turned hturned hnet hother
  have hcountry : net.country? t = other.country? t' :=
    halike.country?_eq (u := ⟨t.side, t'.level⟩) ⟨rfl, hlevel.symm, ht⟩
  rw [InCountries, InCountries, hcountry]

variable [PatternEngine]

/-- An element that is accepted is accepted when it is turned. -/
theorem accepts_of_turned {s : FilterSpec} (h : s.compiled.accepts net front.length = true) :
    s.compiled.accepts other front.length = true := by
  obtain ⟨e, ends, he, hk, hends, hvoltage, hidentity, hcountry⟩ := (accepts_iff_ends hnet).1 h
  obtain ⟨t, u, t', u', rfl, hends', ht, hu⟩ := hends.turned hnet
    (Network.turnedAt_of_turned hturned hnet hother)
    (fun i hi => Network.terminals_eq_of_turned hturned hnet hother hi) he hk
  obtain ⟨htlt, hult⟩ := hends.level_lt hnet
  have htne := Nat.ne_of_lt htlt
  have hune := Nat.ne_of_lt hult
  have he' : other.equipmentAt? front.length = some e := by
    rw [Network.equipmentAt?, Network.nodes_eq_of_turned hturned hnet hother]
    exact he
  refine (accepts_iff_ends hother).2 ⟨e, _, he', hk, hends', ?_, identity_met_congr hidentity, ?_⟩
  · exact (holdAtEnds_turned (holdsAt_iff_of_turned hturned hnet hother ht htne)
      (holdsAt_iff_of_turned hturned hnet hother hu hune)).1 hvoltage
  · exact (holdAtEnds_turned (inCountries_iff_of_turned hturned hnet hother ht htne)
      (inCountries_iff_of_turned hturned hnet hother hu hune)).1 hcountry

theorem accepts_eq_of_turned (s : FilterSpec) (i : Nat) :
    s.compiled.accepts other i = s.compiled.accepts net i := by
  by_cases hi : i = front.length
  · subst hi
    rw [Bool.eq_iff_iff]
    exact ⟨accepts_of_turned hturned.symm hother hnet, accepts_of_turned hturned hnet hother⟩
  · exact (s.compiled.accepts_eq (Network.alike_of_turned hturned hnet hother) ⟨rfl, hi⟩).symm

end

/-- Exchanging the constraints of the two sides changes no list of matching elements of a type with
two ends, and turning one element of a network changes no verdict. -/
theorem sides_immaterial [PatternEngine] {s : FilterSpec} (h : s.Accepted) :
    ∃ f, s.compile = .ok f ∧
      (s.type.DualEnded → ∀ t, s.Exchanged t → ∃ g, t.compile = .ok g ∧
        ∀ steps, g.matching (Network.run steps) = f.matching (Network.run steps)) ∧
      ∀ (before after : List Step) (step turned : Step), step.Turned turned →
        (Network.run (before ++ turned :: after)).nodes =
            (Network.run (before ++ step :: after)).nodes ∧
          ∀ i, f.accepts (Network.run (before ++ turned :: after)) i =
            f.accepts (Network.run (before ++ step :: after)) i := by
  refine ⟨s.compiled, h.compile, fun hdual t ht => ⟨t.compiled, ht.compile h.validate, ?_⟩, ?_⟩
  · intro steps
    exact CompiledFilter.matching_eq_of_accepts ht.type_eq
      (ht.accepts_eq (Network.built_run steps) hdual)
  · intro before after step turned hturned
    rcases Network.run_turned hturned before after with hrun | ⟨front, rest, hlog, hlog'⟩
    · rw [hrun]
      exact ⟨rfl, fun i => rfl⟩
    · have hnet := Network.built_run (before ++ step :: after)
      have hother := Network.built_run (before ++ turned :: after)
      rw [hlog] at hnet
      rw [hlog'] at hother
      exact ⟨Network.nodes_eq_of_turned hturned hnet hother,
        accepts_eq_of_turned hturned hnet hother s⟩

/-- The border with its line given from France to Germany. -/
def turnedBorder : List Step :=
  border.take 4 ++ [.equipment { id := "L12", kind := .equipment .line } ["FR225", "DE380"]]

theorem sides_immaterial_border :
    interconnectors.Accepted ∧ interconnectors.type.DualEnded ∧
      ∃ f g, interconnectors.compile = .ok f ∧ interconnectors.exchangeVoltages.compile = .ok g ∧
        (g.matching (Network.run border)).map Equipment.id = ["L12"] ∧
        f.accepts (Network.run turnedBorder) 4 = true := by
  have hdual : interconnectors.type.DualEnded := by decide
  obtain ⟨f, hf, hexchanged, hturned⟩ := sides_immaterial accepted_interconnectors
  obtain ⟨g, hg, hmatching⟩ := hexchanged hdual _ .voltages
  obtain rfl : interconnectors.compiled = f :=
    Except.ok.inj (accepted_interconnectors.compile.symm.trans hf)
  refine ⟨accepted_interconnectors, hdual, _, g, hf, hg, ?_, ?_⟩
  · rw [hmatching]
    decide +kernel
  · have hline := hturned (border.take 4) [] _ _
      (.equipment { id := "L12", kind := .equipment .line } "DE380" "FR225" [])
    exact (hline.2 4).trans (by decide +kernel)

end GridOutage.Filter
