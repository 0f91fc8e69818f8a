import GridOutage.Proofs.Network.Log

/-!
# Steps in order

A list of steps that must all succeed, as a document gives one. Each step is made on the network of
the steps before it, so whether it succeeds is a matter of what those have added: `Step.Fits` says
so of a list of nodes, and `Ordered` of a list of steps.

* `Built.foldlM_add_iff`: all steps succeed exactly when their identifiers are given and distinct
  and each fits when its turn comes.
* `ordered_append`, `ordered_iff_of_unwanted`: the order matters only between steps of which one
  adds what the other refers to.
* `Built.linked`: the edges of a node are the links that its step names.
-/
namespace GridOutage.Network

open Outcome

/-! ## What a step refers to -/

namespace Step

/-- The identifiers that a step refers to. -/
def references : Step → List String
  | .substation _ => []
  | .voltageLevel id _ => [id]
  | .equipment _ levels => levels
  | .hvdcLine _ a b => [a, b]

/-- The sort of node that a step refers to. -/
def wants : Step → Node → Bool
  | .substation _ => fun _ => false
  | .voltageLevel _ _ => Node.isSubstation
  | .equipment _ _ => Node.isVoltageLevel
  | .hvdcLine _ _ _ => Node.isStation

/-- What a step requires of itself, whatever the network. -/
def Shaped : Step → Prop
  | .substation _ => True
  | .voltageLevel _ v => v.nominal.isFinite = true
  | .equipment e levels => e.kind ≠ .equipment .hvdcLine ∧ levels.length = e.kind.terminalCount
  | .hvdcLine e _ _ => e.kind = .equipment .hvdcLine

/-- What the step refers to is among the nodes, and of the sort that it wants. -/
structure Fits (nodes : List Node) (step : Step) : Prop where
  shaped : step.Shaped
  found : ∀ id ∈ step.references, ∃ node ∈ nodes, node.id = id ∧ step.wants node = true

/-- The links of a step, each with the identifier of its target. -/
def links : Step → List (Link × String)
  | .substation _ => []
  | .voltageLevel id _ => [(.locatedIn, id)]
  | .equipment _ levels => (Side.all.map Link.terminal).zip levels
  | .hvdcLine _ a b => [(.station .one, a), (.station .two, b)]

/-- Nodes that the step does not want make no difference to it. -/
theorem fits_append_iff {nodes added : List Node} {step : Step}
    (h : ∀ node ∈ added, step.wants node = false) :
    step.Fits (nodes ++ added) ↔ step.Fits nodes := by
  have hfound : ∀ id, (∃ node ∈ nodes ++ added, node.id = id ∧ step.wants node = true) ↔
      ∃ node ∈ nodes, node.id = id ∧ step.wants node = true := by
    intro id
    constructor
    · intro hx
      obtain ⟨node, hnode, hid, hwants⟩ := hx
      rcases List.mem_append.1 hnode with hnode | hnode
      · exact ⟨node, hnode, hid, hwants⟩
      · rw [h node hnode] at hwants
        cases hwants
    · intro hx
      obtain ⟨node, hnode, hsort⟩ := hx
      exact ⟨node, List.mem_append_left added hnode, hsort⟩
  constructor
  · intro hfits
    exact ⟨hfits.shaped, fun id hid => (hfound id).1 (hfits.found id hid)⟩
  · intro hfits
    exact ⟨hfits.shaped, fun id hid => (hfound id).2 (hfits.found id hid)⟩

end Step

/-! ## One step -/

section

variable {net : Network} {log : List Step} (h : net.Built log)

include h

theorem Built.exists_finds_iff {id : String} {accept : Node → Bool} :
    (∃ i, net.Finds id accept i) ↔ ∃ node ∈ net.nodes, node.id = id ∧ accept node = true := by
  constructor
  · intro hf
    obtain ⟨i, hp, node, hn, ha⟩ := hf
    obtain ⟨node', hn', hid⟩ := h.position?_eq_some_iff.1 hp
    obtain rfl : node = node' := by rw [hn] at hn'; exact Option.some.inj hn'
    exact ⟨node, List.mem_of_getElem? hn, hid, ha⟩
  · intro hnode
    obtain ⟨node, hm, hid, ha⟩ := hnode
    obtain ⟨i, hi⟩ := List.mem_iff_getElem?.1 hm
    exact ⟨i, h.position?_eq_some_iff.2 ⟨node, hi, hid⟩, node, hi, ha⟩

theorem Built.fresh_iff {id : String} :
    net.Fresh id ↔ Text.blank id = false ∧ id ∉ net.nodes.map Node.id := by
  refine and_congr_right fun _ => ?_
  rw [Option.eq_none_iff_forall_ne_some, List.mem_map]
  constructor
  · intro hnone hused
    obtain ⟨node, hm, hid⟩ := hused
    obtain ⟨i, hi⟩ := List.mem_iff_getElem?.1 hm
    exact hnone i (h.position?_eq_some_iff.2 ⟨node, hi, hid⟩)
  · intro hnew i hp
    obtain ⟨node, hi, hid⟩ := h.position?_eq_some_iff.1 hp
    exact hnew ⟨node, List.mem_of_getElem? hi, hid⟩

theorem Built.exists_joins_iff {step : Step} :
    (∃ links, net.Joins step links) ↔ step.Fits net.nodes := by
  constructor
  · intro hjoins
    obtain ⟨links, hj⟩ := hjoins
    cases hj with
    | substation s => exact ⟨trivial, fun id hid => nomatch hid⟩
    | voltageLevel hs hv =>
      refine ⟨hv, fun id hid => ?_⟩
      obtain rfl := List.mem_singleton.1 hid
      exact h.exists_finds_iff.1 ⟨_, hs⟩
    | equipment hk hn ht =>
      refine ⟨⟨hk, hn⟩, fun id hid => ?_⟩
      obtain ⟨i, hi⟩ := exists_of_forall₂ ht hid
      exact h.exists_finds_iff.1 ⟨i, hi⟩
    | hvdcLine hk ha hb =>
      refine ⟨hk, fun id hid => ?_⟩
      rcases List.mem_pair.1 hid with rfl | rfl
      · exact h.exists_finds_iff.1 ⟨_, ha⟩
      · exact h.exists_finds_iff.1 ⟨_, hb⟩
  · intro hfits
    have hfinds : ∀ id ∈ step.references, ∃ i, net.Finds id step.wants i :=
      fun id hid => h.exists_finds_iff.2 (hfits.found id hid)
    cases step with
    | substation s => exact ⟨_, .substation s⟩
    | voltageLevel id v =>
      obtain ⟨i, hi⟩ := hfinds id (List.mem_singleton_self id)
      exact ⟨_, .voltageLevel hi hfits.shaped⟩
    | equipment e levels =>
      obtain ⟨targets, ht⟩ := exists_forall₂ hfinds
      exact ⟨_, .equipment hfits.shaped.1 hfits.shaped.2 ht⟩
    | hvdcLine e a b =>
      obtain ⟨i, ha⟩ := hfinds a (by simp [Step.references])
      obtain ⟨j, hb⟩ := hfinds b (by simp [Step.references])
      exact ⟨_, .hvdcLine hfits.shaped ha hb⟩

theorem Built.exists_add_iff {step : Step} :
    (∃ after, net.add step = .ok after) ↔
      Text.blank step.node.id = false ∧ step.node.id ∉ net.nodes.map Node.id ∧
        step.Fits net.nodes := by
  simp only [add_eq_ok_iff, ← h.exists_joins_iff, ← and_assoc, ← h.fresh_iff]
  constructor
  · intro hadd
    obtain ⟨after, hf, links, hj, -⟩ := hadd
    exact ⟨hf, links, hj⟩
  · intro hadd
    obtain ⟨hf, links, hj⟩ := hadd
    exact ⟨_, hf, links, hj, rfl⟩

end

/-! ## Several steps -/

/-- Each step fits the nodes that are there when its turn comes. -/
def Ordered : List Node → List Step → Prop
  | _, [] => True
  | nodes, step :: steps => step.Fits nodes ∧ Ordered (nodes ++ [step.node]) steps

theorem ordered_append {nodes : List Node} {before after : List Step} :
    Ordered nodes (before ++ after) ↔
      Ordered nodes before ∧ Ordered (nodes ++ before.map Step.node) after := by
  induction before generalizing nodes with
  | nil => simp [Ordered]
  | cons step before ih => simp [Ordered, ih, and_assoc]

/-- Steps of which none adds what another wants may come in any order. -/
theorem ordered_iff_of_unwanted {nodes : List Node} {steps : List Step}
    (h : ∀ a ∈ steps, ∀ b ∈ steps, a.wants b.node = false) :
    Ordered nodes steps ↔ ∀ step ∈ steps, step.Fits nodes := by
  induction steps generalizing nodes with
  | nil => simp [Ordered]
  | cons step steps ih =>
    have hrest : ∀ a ∈ steps, ∀ b ∈ steps, a.wants b.node = false := fun a ha b hb =>
      h a (List.mem_cons_of_mem step ha) b (List.mem_cons_of_mem step hb)
    rw [Ordered, ih hrest, List.forall_mem_cons]
    refine and_congr_right fun _ => forall₂_congr fun a ha => Step.fits_append_iff ?_
    intro node hnode
    obtain rfl := List.mem_singleton.1 hnode
    exact h a (List.mem_cons_of_mem step ha) step List.mem_cons_self

theorem Built.foldlM_add {net after : Network} {log : List Step} (h : net.Built log)
    {steps : List Step} (hs : steps.foldlM Network.add net = .ok after) :
    after.Built (log ++ steps) := by
  induction steps generalizing net log with
  | nil =>
    obtain rfl := Except.ok.inj hs
    simpa using h
  | cons step steps ih =>
    rw [List.foldlM_cons, bind_eq_ok_iff] at hs
    obtain ⟨next, hadd, hs⟩ := hs
    simpa using ih (h.add hadd) hs

/-- All of some steps succeed exactly when their identifiers are given, differ from each other and
from those of the network, and each step fits when its turn comes. -/
theorem Built.foldlM_add_iff {net : Network} {log : List Step} (h : net.Built log)
    (steps : List Step) :
    (∃ after, steps.foldlM Network.add net = .ok after) ↔
      (∀ step ∈ steps, Text.blank step.node.id = false) ∧
        ((net.nodes ++ steps.map Step.node).map Node.id).Nodup ∧ Ordered net.nodes steps := by
  induction steps generalizing net log with
  | nil => simp [Ordered, h.ids_nodup, pure, Except.pure]
  | cons step steps ih =>
    have hcons : (∃ after, (step :: steps).foldlM Network.add net = .ok after) ↔
        ∃ next, net.add step = .ok next ∧ ∃ after, steps.foldlM Network.add next = .ok after := by
      simp only [List.foldlM_cons, bind_eq_ok_iff]
      rw [exists_comm]
      simp only [exists_and_left]
    have hnodes : ∀ next, net.add step = .ok next → next.nodes = net.nodes ++ [step.node] := by
      intro next hadd
      obtain ⟨-, links, -, rfl⟩ := add_eq_ok_iff.1 hadd
      rfl
    rw [hcons, List.forall_mem_cons]
    constructor
    · intro hs
      obtain ⟨next, hadd, hrest⟩ := hs
      obtain ⟨hgiven, hnodup, hordered⟩ := (ih (h.add hadd)).1 hrest
      obtain ⟨hblank, -, hfits⟩ := h.exists_add_iff.1 ⟨next, hadd⟩
      rw [hnodes next hadd] at hnodup hordered
      exact ⟨⟨hblank, hgiven⟩, by simpa using hnodup, hfits, hordered⟩
    · intro hs
      obtain ⟨⟨hblank, hgiven⟩, hnodup, hfits, hordered⟩ := hs
      have hnew : step.node.id ∉ net.nodes.map Node.id := by
        intro hm
        rw [List.map_append, List.nodup_append] at hnodup
        exact hnodup.2.2 _ hm _ (by simp) rfl
      obtain ⟨next, hadd⟩ := h.exists_add_iff.2 ⟨hblank, hnew, hfits⟩
      refine ⟨next, hadd, (ih (h.add hadd)).2 ⟨hgiven, ?_, ?_⟩⟩
      · rw [hnodes next hadd]
        simpa using hnodup
      · rwa [hnodes next hadd]

/-! ## Links -/

/-- A link names its target when it leads to the position of that identifier. -/
def Leads (net : Network) (named : Link × String) (link : Link × Nat) : Prop :=
  named.1 = link.1 ∧ net.position? named.2 = some link.2

theorem Joins.leads {net : Network} {step : Step} {links : List (Link × Nat)}
    (hj : net.Joins step links) : List.Forall₂ net.Leads step.links links := by
  cases hj with
  | substation s => exact .nil
  | voltageLevel hs hv => exact .cons ⟨rfl, hs.1⟩ .nil
  | equipment hk hn ht =>
    exact forall₂_zip_same (ht.imp fun _ _ hf => hf.1) (Side.all.map Link.terminal)
  | hvdcLine hk ha hb => exact .cons ⟨rfl, ha.1⟩ (.cons ⟨rfl, hb.1⟩ .nil)

/-- The edges of a node are the links that its step names. -/
theorem Built.linked {net : Network} {log : List Step} (h : net.Built log) {i : Nat} {step : Step}
    (hs : log[i]? = some step) : List.Forall₂ net.Leads step.links (net.outgoing i) :=
  (h.joined i step hs).leads

end GridOutage.Network
