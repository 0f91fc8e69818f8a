import GridOutage.Network.Graph
import GridOutage.Proofs.Outcome

/-!
# How one addition changes a network

A successful addition appends one node, its outgoing edges and its entry of the index. What it may
join the new node to is `Joins`, read off the network before it; `add_eq_ok_iff` says that an
addition succeeds exactly when its identifier is `Fresh` and it joins something.

* `Extends`: nodes, positions and outgoing edges that a network has, a larger one has too.
* `Finds.mono`, `Joins.mono`: what was found before is found after, so what a step joined when it
  ran can be read off any later network.
-/
namespace GridOutage.Network

open Outcome

/-- The node that a step adds. -/
def Step.node : Step → Node
  | .substation s => .substation s
  | .voltageLevel _ v => .voltageLevel v
  | .equipment e _ => .equipment e
  | .hvdcLine e _ _ => .equipment e

/-- The edges that leave a node, each by its label and target, in the order of adding. -/
def outgoing (net : Network) (i : Nat) : List (Link × Nat) :=
  (net.edges.filter (·.source == i)).map fun e => (e.link, e.target)

/-- The network with one more node, whose edges go to earlier ones. -/
def extend (net : Network) (node : Node) (links : List (Link × Nat)) : Network :=
  { nodes := net.nodes ++ [node]
    edges := net.edges ++ links.map fun (link, target) => ⟨net.nodes.length, target, link⟩
    index := net.index ++ [(node.id, net.nodes.length)] }

/-- An identifier that a new node may have. -/
def Fresh (net : Network) (id : String) : Prop := Text.blank id = false ∧ net.position? id = none

/-- An identifier leads to a position with a node of some sort. -/
def Finds (net : Network) (id : String) (accept : Node → Bool) (i : Nat) : Prop :=
  net.position? id = some i ∧ ∃ node, net.nodes[i]? = some node ∧ accept node = true

/-- The links that a step gives its node. -/
inductive Joins (net : Network) : Step → List (Link × Nat) → Prop
  | substation (s : Substation) : Joins net (.substation s) []
  | voltageLevel {id : String} {v : VoltageLevel} {i : Nat} (hs : net.Finds id Node.isSubstation i)
      (hv : v.nominal.isFinite = true) : Joins net (.voltageLevel id v) [(.locatedIn, i)]
  | equipment {e : Equipment} {levels : List String} {targets : List Nat}
      (hk : e.kind ≠ .equipment .hvdcLine) (hn : levels.length = e.kind.terminalCount)
      (ht : List.Forall₂ (net.Finds · Node.isVoltageLevel) levels targets) :
      Joins net (.equipment e levels) ((Side.all.map Link.terminal).zip targets)
  | hvdcLine {e : Equipment} {a b : String} {i j : Nat} (hk : e.kind = .equipment .hvdcLine)
      (ha : net.Finds a Node.isStation i) (hb : net.Finds b Node.isStation j) :
      Joins net (.hvdcLine e a b) [(.station .one, i), (.station .two, j)]

/-! ## What a step does -/

theorem expect_eq_ok_iff {net : Network} {id : String} {accept : Node → Bool} {i : Nat} :
    net.expect id accept = .ok i ↔ net.Finds id accept i := by
  unfold expect Finds
  cases hp : net.position? id with
  | none => simp
  | some j =>
    cases hn : net.nodes[j]? with
    | none => simp only [hn, Option.any_none, Bool.false_eq_true, if_false]; grind
    | some node =>
      simp only [hn, Option.any_some]
      split
      · grind
      · grind

theorem register_eq_ok_iff {net after : Network} {node : Node} {links : List (Link × Nat)} :
    net.register node links = .ok after ↔ net.Fresh node.id ∧ after = net.extend node links := by
  unfold register Fresh extend
  cases hb : Text.blank node.id with
  | true => simp
  | false =>
    cases hp : net.position? node.id with
    | some i => simp
    | none =>
      simp only [Bool.false_eq_true, if_false, Option.isSome_none, Except.ok.injEq, true_and]
      exact eq_comm

/-- An addition succeeds exactly when the identifier is new and everything it refers to is there,
and then it appends the node with its links. -/
theorem add_eq_ok_iff {net after : Network} {step : Step} :
    net.add step = .ok after ↔
      net.Fresh step.node.id ∧
        ∃ links, net.Joins step links ∧ after = net.extend step.node links := by
  cases step with
  | substation s =>
    rw [add, addSubstation, register_eq_ok_iff]
    constructor
    · intro h
      obtain ⟨hf, rfl⟩ := h
      exact ⟨hf, [], .substation s, rfl⟩
    · intro h
      obtain ⟨hf, links, hj, rfl⟩ := h
      cases hj
      exact ⟨hf, rfl⟩
  | voltageLevel id v =>
    rw [add, addVoltageLevel, bind_eq_ok_iff]
    simp only [expect_eq_ok_iff]
    constructor
    · intro h
      obtain ⟨i, hs, h⟩ := h
      split at h
      · next hv =>
        obtain ⟨hf, rfl⟩ := register_eq_ok_iff.1 h
        exact ⟨hf, _, .voltageLevel hs hv, rfl⟩
      · cases h
    · intro h
      obtain ⟨hf, links, hj, rfl⟩ := h
      cases hj with
      | @voltageLevel _ _ i hs hv =>
        refine ⟨i, hs, ?_⟩
        rw [if_pos hv, register_eq_ok_iff]
        exact ⟨hf, rfl⟩
  | equipment e levels =>
    rw [add, addEquipment]
    constructor
    · intro h
      split at h
      · cases h
      · split at h
        · cases h
        · next hk hn =>
          obtain ⟨targets, ht, h⟩ := bind_eq_ok_iff.1 h
          obtain ⟨hf, rfl⟩ := register_eq_ok_iff.1 h
          have hts := (mapM_eq_ok_iff.1 ht).imp fun _ _ => expect_eq_ok_iff.1
          exact ⟨hf, _, .equipment hk (not_not.1 hn) hts, rfl⟩
    · intro h
      obtain ⟨hf, links, hj, rfl⟩ := h
      cases hj with
      | @equipment _ _ targets hk hn hts =>
        rw [if_neg hk, if_neg (not_not.2 hn), bind_eq_ok_iff]
        refine ⟨targets, ?_, register_eq_ok_iff.2 ⟨hf, rfl⟩⟩
        exact mapM_eq_ok_iff.2 (hts.imp fun _ _ => expect_eq_ok_iff.2)
  | hvdcLine e a b =>
    rw [add, addHvdcLine]
    constructor
    · intro h
      split at h
      · cases h
      · next hk =>
        simp only [bind_eq_ok_iff, expect_eq_ok_iff, register_eq_ok_iff] at h
        obtain ⟨i, ha, j, hb, hf, rfl⟩ := h
        exact ⟨hf, _, .hvdcLine (not_not.1 hk) ha hb, rfl⟩
    · intro h
      obtain ⟨hf, links, hj, rfl⟩ := h
      cases hj with
      | @hvdcLine _ _ _ i j hk ha hb =>
        rw [if_neg (not_not.2 hk)]
        simp only [bind_eq_ok_iff, expect_eq_ok_iff, register_eq_ok_iff]
        exact ⟨i, ha, j, hb, hf, rfl⟩

/-! ## Larger networks -/

/-- Everything a network has, the later one has too, at the same place. -/
structure Extends (net after : Network) : Prop where
  nodes : ∀ (i : Nat) (node : Node), net.nodes[i]? = some node → after.nodes[i]? = some node
  positions : ∀ id i, net.position? id = some i → after.position? id = some i
  outgoing : ∀ i, i < net.nodes.length → after.outgoing i = net.outgoing i

theorem Extends.refl (net : Network) : net.Extends net :=
  ⟨fun _ _ h => h, fun _ _ h => h, fun _ _ => rfl⟩

theorem Extends.length_le {net after : Network} (h : net.Extends after) :
    net.nodes.length ≤ after.nodes.length := by
  by_contra hlt
  have hlast := List.getElem?_eq_getElem (Nat.not_le.1 hlt)
  exact Nat.lt_irrefl _ (List.getElem?_eq_some_iff.1 (h.nodes _ _ hlast)).1

theorem Extends.trans {a b c : Network} (hab : a.Extends b) (hbc : b.Extends c) : a.Extends c where
  nodes i node hi := hbc.nodes i node (hab.nodes i node hi)
  positions id i hi := hbc.positions id i (hab.positions id i hi)
  outgoing i hi := by rw [hbc.outgoing i (Nat.lt_of_lt_of_le hi hab.length_le), hab.outgoing i hi]

theorem extends_extend (net : Network) (node : Node) (links : List (Link × Nat)) :
    net.Extends (net.extend node links) where
  nodes i n h := by
    have hi : i < net.nodes.length := (List.getElem?_eq_some_iff.1 h).1
    rw [extend, List.getElem?_append_left hi, h]
  positions id i h := by
    unfold position? at h ⊢
    rw [extend, List.lookup_append, h, Option.some_or]
  outgoing i hi := by
    have hne : (net.nodes.length == i) = false := by rw [beq_eq_false_iff_ne]; omega
    simp [Network.outgoing, extend, List.filter_append, List.filter_map, Function.comp_def, hne]

theorem Finds.mono {net after : Network} (h : net.Extends after) {id : String}
    {accept : Node → Bool} {i : Nat} (hf : net.Finds id accept i) : after.Finds id accept i := by
  obtain ⟨hp, node, hn, ha⟩ := hf
  exact ⟨h.positions id i hp, node, h.nodes i node hn, ha⟩

theorem Joins.mono {net after : Network} (h : net.Extends after) {step : Step}
    {links : List (Link × Nat)} (hj : net.Joins step links) : after.Joins step links := by
  cases hj with
  | substation s => exact .substation s
  | voltageLevel hs hv => exact .voltageLevel (hs.mono h) hv
  | equipment hk hn ht => exact .equipment hk hn (ht.imp fun _ _ hf => hf.mono h)
  | hvdcLine hk ha hb => exact .hvdcLine hk (ha.mono h) (hb.mono h)

theorem Finds.lt {net : Network} {id : String} {accept : Node → Bool} {i : Nat}
    (hf : net.Finds id accept i) : i < net.nodes.length := by
  obtain ⟨-, node, hn, -⟩ := hf
  exact (List.getElem?_eq_some_iff.1 hn).1

/-- The targets of a step's links are nodes that are there already. -/
theorem Joins.target_lt {net : Network} {step : Step} {links : List (Link × Nat)}
    (hj : net.Joins step links) {l : Link × Nat} (hl : l ∈ links) : l.2 < net.nodes.length := by
  cases hj with
  | substation s => cases hl
  | voltageLevel hs hv =>
    rw [List.mem_singleton] at hl
    subst hl
    exact hs.lt
  | equipment hk hn ht =>
    obtain ⟨-, hl⟩ := List.of_mem_zip (a := l.1) (b := l.2) hl
    exact forall_right_of_forall₂ ht (fun _ _ hf => hf.lt) l.2 hl
  | hvdcLine hk ha hb =>
    simp only [List.mem_cons, List.not_mem_nil, or_false] at hl
    rcases hl with rfl | rfl
    · exact ha.lt
    · exact hb.lt

/-! ## Following edges -/

theorem targets_eq (net : Network) (i : Nat) (link : Link) :
    net.targets i link = ((net.outgoing i).filter (·.1 == link)).map Prod.snd := by
  simp [targets, outgoing, List.filter_map, Function.comp_def, Bool.and_comm]

/-- Links to the levels of an element are its terminals, each at its side. -/
theorem terminals_of_zip {net : Network} {i : Nat} {levels : List Nat}
    (h : net.outgoing i = (Side.all.map Link.terminal).zip levels) :
    net.terminals i = List.zipWith Terminal.mk Side.all levels := by
  -- There are three sides, so a list of levels shows at most three of its members.
  rcases levels with _ | ⟨a, _ | ⟨b, _ | ⟨c, rest⟩⟩⟩ <;>
    simp [terminals, targets_eq, h, Side.all]

theorem terminals_of_stations {net : Network} {i a b : Nat}
    (h : net.outgoing i = [(.station .one, a), (.station .two, b)]) : net.terminals i = [] := by
  simp [terminals, targets_eq, h, Side.all]

theorem station?_of_stations {net : Network} {i a b : Nat}
    (h : net.outgoing i = [(.station .one, a), (.station .two, b)]) :
    net.station? i .one = some a ∧ net.station? i .two = some b := by
  simp [station?, targets_eq, h]

theorem substation?_of_located {net : Network} {i j : Nat} {s : Substation}
    (h : net.outgoing i = [(.locatedIn, j)]) (hs : net.nodes[j]? = some (.substation s)) :
    net.substation? i = some s := by
  simp [substation?, targets_eq, h, hs, Node.substation?]

end GridOutage.Network
