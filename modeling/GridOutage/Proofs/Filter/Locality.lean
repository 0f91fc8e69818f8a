import GridOutage.Filter.Compile
import GridOutage.Proofs.Filter.Selection
import GridOutage.Proofs.Network.Alike

/-!
# Verdicts on a growing network

A condition looks at an element, its terminals and its converter stations, and at no other part of
a network. So it says the same of two elements from which on their networks look alike
(`holds_eq`, by induction on the condition), and so does a compiled filter (`accepts_eq`).

Whatever is added to a network cannot be reached from what was there, so a verdict once given
stands: `verdicts_of_add` says so of one addition, `verdicts_of_run` of all that follow.
-/
namespace GridOutage.Filter

open Network (Step AlikeTerminals)
open Outcome

theorem any_eq_of_forall₂ {α β : Type} {R : α → β → Prop} {p : α → Bool} {q : β → Bool}
    {xs : List α} {ys : List β} (h : List.Forall₂ R xs ys) (hpq : ∀ x y, R x y → p x = q y) :
    xs.any p = ys.any q := by
  induction h with
  | nil => rfl
  | cons hr _ ih => rw [List.any_cons, List.any_cons, hpq _ _ hr, ih]

/-! ## Networks that look alike -/

section

variable {net other : Network} {related : Nat → Nat → Prop} {i j : Nat}

theorem alikeTerminals_point (h : net.Alike other related) (hij : related i j) (p : MeasurePoint) :
    List.Forall₂ (AlikeTerminals related) (p.terminals net i) (p.terminals other j) := by
  have station (side : Side) : List.Forall₂ (AlikeTerminals related)
      (((net.station? i side).map net.terminals).getD [])
      (((other.station? j side).map other.terminals).getD []) := by
    have hstation := h.station? hij side
    generalize net.station? i side = a, other.station? j side = b at hstation
    cases hstation with
    | none => exact .nil
    | some hab => exact h.terminals hab
  cases p with
  | terminal => exact h.terminals hij
  | terminal1 => exact h.terminal? hij .one
  | terminal2 => exact h.terminal? hij .two
  | station1 => exact station .one
  | station2 => exact station .two

variable [PatternEngine]

namespace Condition

mutual

/-- The induction is on the condition: only the tests at a measure point look at the network. -/
theorem holds_eq (h : net.Alike other related) (hij : related i j) (e : Equipment) :
    ∀ c : Condition, c.holds net i e = c.holds other j e
  | .voltage p c b => any_eq_of_forall₂ (alikeTerminals_point h hij p) fun t u htu => by
      rw [h.nominalVoltage?_eq htu]
  | .id g => rfl
  | .name g => rfl
  | .located p s => any_eq_of_forall₂ (alikeTerminals_point h hij p) fun t u htu => by
      rw [h.country?_eq htu]
  | .all parts => allHold_congr h hij e parts
  | .any parts => anyHolds_congr h hij e parts
  | .helper _ _ _ body => holds_eq h hij e body

theorem allHold_congr (h : net.Alike other related) (hij : related i j) (e : Equipment) :
    ∀ parts : List Condition, allHold net i e parts = allHold other j e parts
  | [] => rfl
  | c :: cs => by rw [allHold, allHold, holds_eq h hij e c, allHold_congr h hij e cs]

theorem anyHolds_congr (h : net.Alike other related) (hij : related i j) (e : Equipment) :
    ∀ parts : List Condition, anyHolds net i e parts = anyHolds other j e parts
  | [] => rfl
  | c :: cs => by rw [anyHolds, anyHolds, holds_eq h hij e c, anyHolds_congr h hij e cs]

end

end Condition

theorem CompiledFilter.accepts_eq (h : net.Alike other related) (hij : related i j)
    (f : CompiledFilter) : f.accepts net i = f.accepts other j := by
  unfold accepts
  rw [h.equipmentAt?_eq hij]
  cases other.equipmentAt? j with
  | none => rfl
  | some e => simp only [Condition.holds_eq h hij e]

end

/-! ## A network that grows -/

section

variable [PatternEngine]

/-- What a filter matches after an addition: what it matched before, and then the new element if it
is accepted. -/
theorem matching_extend {net : Network} {log : List Step} (h : net.Built log) (node : Node)
    (links : List (Link × Nat)) (f : CompiledFilter) :
    f.matching (net.extend node links) = f.matching net ++
      if f.accepts (net.extend node links) net.nodes.length then node.equipment?.toList else [] := by
  have halike := h.alike_of_extends (Network.extends_extend net node links)
  have hold : ∀ p ∈ net.ofKind (.equipment f.type),
      f.accepts (net.extend node links) p.1 = f.accepts net p.1 := fun p hp =>
    (f.accepts_eq halike ⟨rfl, Network.lt_of_mem_equipments (List.mem_filter.1 hp).1⟩).symm
  have hnode : (net.extend node links).equipmentAt? net.nodes.length = node.equipment? := by
    simp [Network.equipmentAt?, Network.extend]
  rw [CompiledFilter.matching, CompiledFilter.matching, Network.ofKind,
    Network.equipments_extend, List.filter_append, List.filter_append, List.map_append]
  refine congrArg₂ _ (congrArg _ (List.filter_congr hold)) ?_
  cases he : node.equipment? with
  | none => simp
  | some e =>
    rw [he] at hnode
    by_cases ha : f.accepts (net.extend node links) net.nodes.length = true
    · obtain ⟨e', he', hkind, -⟩ := CompiledFilter.accepts_iff.1 ha
      obtain rfl : e = e' := by rw [hnode] at he'; exact Option.some.inj he'
      simp [ha, hkind]
    · simp [ha]

/-- Verdicts on a node are the same on a network that extends the one of the node. -/
theorem verdicts_of_extends {net after : Network} {log : List Step} (h : net.Built log)
    (hext : net.Extends after) {i : Nat} (hi : i < net.nodes.length) :
    (∀ (c : Condition) (e : Equipment), c.holds after i e = c.holds net i e) ∧
      ∀ f : CompiledFilter, f.accepts after i = f.accepts net i := by
  have halike := h.alike_of_extends hext
  have hwithin : net.Within i i := ⟨rfl, hi⟩
  exact ⟨fun c e => (c.holds_eq halike hwithin e).symm, fun f => (f.accepts_eq halike hwithin).symm⟩

/-- Whatever is attempted later, a condition or a filter says of a node what it said before. -/
theorem verdicts_of_run (steps later : List Step) {i : Nat}
    (hi : i < (Network.run steps).nodes.length) :
    (∀ (c : Condition) (e : Equipment),
      c.holds (Network.run (steps ++ later)) i e = c.holds (Network.run steps) i e) ∧
      ∀ f : CompiledFilter,
        f.accepts (Network.run (steps ++ later)) i = f.accepts (Network.run steps) i := by
  have hrun : Network.run (steps ++ later) = later.foldl Network.attempt (Network.run steps) :=
    List.foldl_append
  rw [hrun]
  exact verdicts_of_extends (Network.built_run steps) (Network.extends_foldl _ later) hi

/-- An addition appends its node and changes no verdict on any other, so every filter matches what
it matched before and, if it accepts the new node, the new element after it. -/
theorem verdicts_of_add (steps : List Step) {step : Step} {after : Network}
    (h : (Network.run steps).add step = .ok after) :
    (∀ i, i < (Network.run steps).nodes.length →
      (∀ (c : Condition) (e : Equipment), c.holds after i e = c.holds (Network.run steps) i e) ∧
      ∀ f : CompiledFilter, f.accepts after i = f.accepts (Network.run steps) i) ∧
    after.nodes = (Network.run steps).nodes ++ [step.node] ∧
    ∀ f : CompiledFilter, f.matching after = f.matching (Network.run steps) ++
      if f.accepts after (Network.run steps).nodes.length then step.node.equipment?.toList
      else [] := by
  obtain ⟨-, links, -, rfl⟩ := Network.add_eq_ok_iff.1 h
  have hbuilt := Network.built_run steps
  exact ⟨fun i => verdicts_of_extends hbuilt (Network.extends_extend _ _ links), rfl,
    matching_extend hbuilt step.node links⟩

end

/-- A second line across the border, from the other side. -/
def parallelLine : Equipment := { id := "L13", kind := .equipment .line }

theorem verdicts_of_add_line :
    ∃ after, (Network.run border).add (.equipment parallelLine ["FR225", "DE380"]) = .ok after ∧
      interconnectors.compiled.accepts after 4 =
        interconnectors.compiled.accepts (Network.run border) 4 ∧
      interconnectors.compiled.matching after =
        interconnectors.compiled.matching (Network.run border) ++ [parallelLine] := by
  let after := (Network.run border).attempt (.equipment parallelLine ["FR225", "DE380"])
  have hadd : (Network.run border).add (.equipment parallelLine ["FR225", "DE380"]) =
      .ok after := by
    decide +kernel
  have hlength : (Network.run border).nodes.length = 5 := by decide +kernel
  have haccepts : interconnectors.compiled.accepts after 5 = true := by decide +kernel
  obtain ⟨hverdicts, -, hmatching⟩ := verdicts_of_add border hadd
  rw [hlength] at hverdicts
  have hlist := hmatching interconnectors.compiled
  rw [hlength, haccepts] at hlist
  exact ⟨after, hadd, (hverdicts 4 (by decide)).2 _, hlist⟩

end GridOutage.Filter
