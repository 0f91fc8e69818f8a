import GridOutage.Proofs.Network.Lookup
import Mathlib.Data.List.Forall2

/-!
# Networks that look alike

Queries start at a node and follow edges, so what they answer depends on the nodes that can be
reached from there and not on the positions of these. `Alike` relates positions of two networks
from which on nothing differs; it asks for one step only, the node and its edges, and every query
follows from it.

* `Alike.terminals`, `Alike.station?`: what an element is connected to.
* `Alike.nominalVoltage?_eq`, `Alike.country?_eq`: what is known at a terminal.
* `Built.alike_of_extends`, `extends_foldl`: a network looks the same from its own nodes on,
  whatever is added to it.
-/
namespace GridOutage.Network

open Outcome

/-- Related positions have the same node, and its edges lead to related positions: in the same order
and with the same labels. -/
structure Alike (net other : Network) (related : Nat → Nat → Prop) : Prop where
  node_eq : ∀ i j, related i j → net.nodes[i]? = other.nodes[j]?
  outgoing : ∀ i j, related i j →
    List.Forall₂ (fun a b => a.1 = b.1 ∧ related a.2 b.2) (net.outgoing i) (other.outgoing j)

/-- Terminals at the same side, whose voltage levels are related. -/
def AlikeTerminals (related : Nat → Nat → Prop) (t u : Terminal) : Prop :=
  t.side = u.side ∧ related t.level u.level

theorem forall₂_filter {α β : Type} {R : α → β → Prop} {p : α → Bool} {q : β → Bool} {xs : List α}
    {ys : List β} (h : List.Forall₂ R xs ys) (hpq : ∀ x y, R x y → p x = q y) :
    List.Forall₂ R (xs.filter p) (ys.filter q) :=
  List.rel_filter (fun x y hr => by dsimp only; rw [hpq x y hr]) h

theorem findSome?_eq_of_forall₂ {α β γ : Type} {R : α → β → Prop} {f : α → Option γ}
    {g : β → Option γ} {xs : List α} {ys : List β} (h : List.Forall₂ R xs ys)
    (hfg : ∀ x y, R x y → f x = g y) : xs.findSome? f = ys.findSome? g := by
  induction h with
  | nil => rfl
  | cons hr _ ih => rw [List.findSome?_cons, List.findSome?_cons, hfg _ _ hr, ih]

/-! ## Queries -/

section

variable {net other : Network} {related : Nat → Nat → Prop} (h : net.Alike other related) {i j : Nat}

include h

theorem Alike.equipmentAt?_eq (hij : related i j) : net.equipmentAt? i = other.equipmentAt? j := by
  rw [equipmentAt?, equipmentAt?, h.node_eq i j hij]

theorem Alike.targets (hij : related i j) (link : Link) :
    List.Forall₂ related (net.targets i link) (other.targets j link) := by
  rw [targets_eq, targets_eq, List.forall₂_map_left_iff, List.forall₂_map_right_iff]
  have hlinks := forall₂_filter (p := (·.1 == link)) (q := (·.1 == link)) (h.outgoing i j hij)
    fun a b hab => by rw [hab.1]
  exact hlinks.imp fun _ _ hab => hab.2

theorem Alike.terminals (hij : related i j) :
    List.Forall₂ (AlikeTerminals related) (net.terminals i) (other.terminals j) := by
  refine List.rel_flatMap (List.forall₂_same.2 fun side _ => rfl : List.Forall₂ (· = ·) _ _) ?_
  intro side side' hside
  subst hside
  rw [List.forall₂_map_left_iff, List.forall₂_map_right_iff]
  exact (h.targets hij (.terminal side)).imp fun a b hab => ⟨rfl, hab⟩

theorem Alike.terminal? (hij : related i j) (side : Side) :
    List.Forall₂ (AlikeTerminals related) (net.terminal? i side).toList
      (other.terminal? j side).toList := by
  rw [Network.terminal?, Network.terminal?, ← List.head?_filter, ← List.head?_filter,
    ← List.take_one, ← List.take_one]
  exact List.forall₂_take 1 (forall₂_filter (h.terminals hij) fun t u htu => by rw [htu.1])

theorem Alike.station? (hij : related i j) (side : Side) :
    Option.Rel related (net.station? i side) (other.station? j side) := by
  rw [Network.station?, Network.station?]
  have htargets := h.targets hij (.station side)
  generalize net.targets i (.station side) = as, other.targets j (.station side) = bs at htargets
  cases htargets with
  | nil => exact .none
  | cons hab _ => exact .some hab

theorem Alike.nominalVoltage?_eq {t u : Terminal} (htu : AlikeTerminals related t u) :
    net.nominalVoltage? t = other.nominalVoltage? u := by
  rw [nominalVoltage?, nominalVoltage?, voltageLevel?, voltageLevel?, h.node_eq _ _ htu.2]

theorem Alike.country?_eq {t u : Terminal} (htu : AlikeTerminals related t u) :
    net.country? t = other.country? u := by
  have hsubstation : net.substation? t.level = other.substation? u.level :=
    findSome?_eq_of_forall₂ (h.targets htu.2 .locatedIn) fun a b hab => by rw [h.node_eq a b hab]
  unfold country?
  rw [hsubstation]

end

/-! ## Growth -/

/-- A position that a network has, before and after it has grown. -/
def Within (net : Network) (i j : Nat) : Prop := i = j ∧ i < net.nodes.length

/-- Edges that a network has stay within it, so nothing that is added later is reached from it. -/
theorem Built.alike_of_extends {net after : Network} {log : List Step} (h : net.Built log)
    (hext : net.Extends after) : net.Alike after net.Within where
  node_eq i j hij := by
    obtain ⟨rfl, hi⟩ := hij
    have hnode := List.getElem?_eq_getElem hi
    rw [hnode, hext.nodes i _ hnode]
  outgoing i j hij := by
    obtain ⟨rfl, hi⟩ := hij
    rw [hext.outgoing i hi, List.forall₂_same]
    intro link hlink
    obtain ⟨edge, hedge, rfl⟩ := List.mem_map.1 hlink
    have hsource := (List.mem_filter.1 hedge).2
    have hback := h.edges_back edge (List.mem_filter.1 hedge).1
    exact ⟨rfl, rfl, by omega⟩

theorem extends_attempt (net : Network) (step : Step) : net.Extends (net.attempt step) := by
  cases hadd : net.add step with
  | error fault =>
    rw [attempt_of_error hadd]
    exact .refl net
  | ok after =>
    obtain ⟨-, links, -, rfl⟩ := add_eq_ok_iff.1 hadd
    rw [attempt_of_ok hadd]
    exact extends_extend net step.node links

theorem extends_foldl (net : Network) (steps : List Step) :
    net.Extends (steps.foldl attempt net) := by
  induction steps generalizing net with
  | nil => exact .refl net
  | cons step steps ih => exact (extends_attempt net step).trans (ih (net.attempt step))

/-- A new node is listed last, if it is equipment. -/
theorem equipments_extend (net : Network) (node : Node) (links : List (Link × Nat)) :
    (net.extend node links).equipments =
      net.equipments ++ node.equipment?.toList.map (net.nodes.length, ·) := by
  simp only [equipments, extend, List.zipIdx_append, List.filterMap_append]
  cases h : node.equipment? <;> simp [h]

end GridOutage.Network
