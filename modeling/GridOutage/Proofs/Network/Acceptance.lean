import GridOutage.Network.Document
import GridOutage.Proofs.Network.Order
import Mathlib.Data.List.Perm.Basic

/-!
# Which documents make a network, and which one they make

A document is read in three passes over a network that grows, and the first problem ends it. Still
whether it makes a network does not depend on any order: `Acceptable` says when, of the document
alone. `LaidOut` says which network it is, the nodes in the order of the passes and each with the
links that the document gives it.

The passes are lists of steps. In the last two no step wants what another of them adds, so they
are a matter of the nodes of the passes before (`Network.ordered_iff_of_unwanted`), and those are
known from the document whether or not the passes succeed.
-/
namespace GridOutage.NetworkDocument

open Outcome
open Network (Step Ordered)

/-! ## What a document says -/

/-- The identifiers of all elements of a document. -/
def ids (d : NetworkDocument) : List String :=
  d.substations.flatMap (fun s => s.id :: s.levels.map VoltageLevelDocument.id) ++
    d.equipment.map EquipmentDocument.id

/-- A voltage level of the document has the identifier. -/
def HasLevel (d : NetworkDocument) (id : String) : Prop :=
  ∃ s ∈ d.substations, ∃ v ∈ s.levels, v.id = id

/-- A converter station of the document has the identifier, wherever it stands. -/
def HasStation (d : NetworkDocument) (id : String) : Prop :=
  ∃ e ∈ d.equipment, e.kind = .converterStation ∧ e.id = id

/-- What a document must satisfy to make a network. -/
structure Acceptable (d : NetworkDocument) : Prop where
  ids_given : ∀ id ∈ d.ids, Text.blank id = false
  ids_nodup : d.ids.Nodup
  voltages : ∀ s ∈ d.substations, ∀ v ∈ s.levels, v.nominal.isFinite = true
  terminals : ∀ e ∈ d.equipment, e.kind ≠ .equipment .hvdcLine →
    e.terminals.length = e.kind.terminalCount ∧ ∀ id ∈ e.terminals, d.HasLevel id
  stations : ∀ e ∈ d.equipment, e.kind = .equipment .hvdcLine →
    e.stations.length = 2 ∧ ∀ id ∈ e.stations, d.HasStation id

/-- The nodes of a document in the order of its network, each with its links by the identifiers of
their targets: every substation before its voltage levels, then the equipment with terminals, and
the HVDC lines last. -/
def layout (d : NetworkDocument) : List (Node × List (Link × String)) :=
  d.substations.flatMap (fun s =>
      (.substation { id := s.id, name := s.name, country := s.country }, []) ::
        s.levels.map fun v =>
          (.voltageLevel { id := v.id, name := v.name, nominal := v.nominal },
            [(.locatedIn, s.id)])) ++
    (d.equipment.filter fun e => !e.isHvdcLine).map (fun e =>
      (.equipment e.element, (Side.all.map Link.terminal).zip e.terminals)) ++
    (d.equipment.filter EquipmentDocument.isHvdcLine).map (fun e =>
      (.equipment e.element, [.station .one, .station .two].zip e.stations))

/-- The network has the nodes of the document with their links, and no other edges. -/
structure LaidOut (d : NetworkDocument) (net : Network) : Prop where
  nodes_eq : net.nodes = d.layout.map Prod.fst
  position?_iff : ∀ id i, net.position? id = some i ↔
    ∃ node, net.nodes[i]? = some node ∧ node.id = id
  linked : ∀ i node links, d.layout[i]? = some (node, links) →
    List.Forall₂ net.Leads links (net.outgoing i)
  edges_inside : ∀ edge ∈ net.edges, edge.source < net.nodes.length

/-- The equipment without what no pass reads: the terminals of an HVDC line, or the converter
stations of anything else. -/
def relevantEquipment (e : EquipmentDocument) : EquipmentDocument :=
  if e.isHvdcLine then { e with terminals := [] } else { e with stations := [] }

def relevant (d : NetworkDocument) : NetworkDocument :=
  { d with equipment := d.equipment.map relevantEquipment }

/-! ## The steps of a document -/

theorem isHvdcLine_iff {e : EquipmentDocument} :
    e.isHvdcLine = true ↔ e.kind = .equipment .hvdcLine := by
  rw [EquipmentDocument.isHvdcLine, beq_iff_eq]

/-- The step of an HVDC line that names two converter stations. -/
def LineStep (e : EquipmentDocument) (step : Step) : Prop :=
  e.kind = .equipment .hvdcLine ∧ ∃ a b, e.stations = [a, b] ∧ step = .hvdcLine e.element a b

/-- The steps of the HVDC lines of a document, each of which names two converter stations. -/
def LineSteps (d : NetworkDocument) (lines : List Step) : Prop :=
  List.Forall₂ LineStep (d.equipment.filter EquipmentDocument.isHvdcLine) lines

/-- The steps of a document, given those of its HVDC lines. -/
def stepsWith (d : NetworkDocument) (lines : List Step) : List Step :=
  d.substations.flatMap substationSteps ++
    (d.equipment.filter fun e => !e.isHvdcLine).map equipmentStep ++ lines

theorem hvdcStep_eq_ok_iff {e : EquipmentDocument} {step : Step} :
    hvdcStep e = .ok step ↔ ∃ a b, e.stations = [a, b] ∧ step = .hvdcLine e.element a b := by
  unfold hvdcStep
  split
  · next a b hs =>
    rw [hs]
    constructor
    · intro h
      exact ⟨a, b, rfl, (Except.ok.inj h).symm⟩
    · intro h
      obtain ⟨a', b', hab, rfl⟩ := h
      cases hab
      rfl
  · next hs =>
    refine iff_of_false (fun h => by cases h) ?_
    intro h
    obtain ⟨a, b, hab, -⟩ := h
    exact hs a b hab

/-- Steps that may be impossible succeed together when each of them is possible and they succeed. -/
theorem foldlM_possible_iff {attempts : List (Except Network.Fault Step)} {net after : Network} :
    attempts.foldlM (fun net step => do net.add (← step)) net = .ok after ↔
      ∃ steps : List Step, attempts = steps.map .ok ∧ steps.foldlM Network.add net = .ok after := by
  induction attempts generalizing net with
  | nil =>
    constructor
    · intro h
      exact ⟨[], rfl, h⟩
    · intro h
      obtain ⟨steps, hs, h⟩ := h
      obtain rfl := List.map_eq_nil_iff.1 hs.symm
      exact h
  | cons attempt attempts ih =>
    simp only [List.foldlM_cons, bind_eq_ok_iff, ih]
    constructor
    · intro h
      obtain ⟨next, ⟨step, rfl, hadd⟩, steps, rfl, h⟩ := h
      refine ⟨step :: steps, rfl, ?_⟩
      rw [List.foldlM_cons, bind_eq_ok_iff]
      exact ⟨next, hadd, h⟩
    · intro h
      obtain ⟨steps, hs, h⟩ := h
      cases steps with
      | nil => cases hs
      | cons step steps =>
        rw [List.map_cons, List.cons.injEq] at hs
        rw [List.foldlM_cons, bind_eq_ok_iff] at h
        obtain ⟨next, hadd, h⟩ := h
        exact ⟨next, ⟨step, hs.1, hadd⟩, steps, hs.2, h⟩

theorem map_hvdcStep_eq_iff {d : NetworkDocument} {lines : List Step} :
    (d.equipment.filter EquipmentDocument.isHvdcLine).map hvdcStep = lines.map .ok ↔
      d.LineSteps lines := by
  have hkind : ∀ e ∈ d.equipment.filter EquipmentDocument.isHvdcLine,
      e.kind = .equipment .hvdcLine := fun e he => isHvdcLine_iff.1 (List.mem_filter.1 he).2
  rw [← List.forall₂_eq_eq_eq, List.forall₂_map_left_iff, List.forall₂_map_right_iff]
  simp only [hvdcStep_eq_ok_iff]
  constructor
  · intro h
    exact (List.forall₂_and_left _ _).2 ⟨hkind, h⟩
  · intro h
    exact ((List.forall₂_and_left _ _).1 h).2

theorem plan_eq_map_iff {d : NetworkDocument} {steps : List Step} :
    d.plan = steps.map .ok ↔ ∃ lines, d.LineSteps lines ∧ steps = d.stepsWith lines := by
  have hplan : d.plan = (d.substations.flatMap substationSteps ++
      (d.equipment.filter fun e => !e.isHvdcLine).map equipmentStep).map .ok ++
        (d.equipment.filter EquipmentDocument.isHvdcLine).map hvdcStep := by
    rw [plan, List.map_append, List.map_map]
    rfl
  rw [hplan, eq_comm, List.map_eq_append_iff]
  constructor
  · intro h
    obtain ⟨others, lines, rfl, hothers, hlines⟩ := h
    have hinj : Function.Injective (Except.ok : Step → Except Network.Fault Step) :=
      fun _ _ => Except.ok.inj
    obtain rfl := hinj.list_map hothers
    exact ⟨lines, map_hvdcStep_eq_iff.1 hlines.symm, rfl⟩
  · intro h
    obtain ⟨lines, hlines, rfl⟩ := h
    exact ⟨_, lines, rfl, rfl, (map_hvdcStep_eq_iff.2 hlines).symm⟩

theorem toNetwork_eq_ok_iff {d : NetworkDocument} {net : Network} :
    d.toNetwork = .ok net ↔ ∃ lines, d.LineSteps lines ∧
      (d.stepsWith lines).foldlM Network.add Network.empty = .ok net := by
  simp only [toNetwork, foldlM_possible_iff, plan_eq_map_iff]
  constructor
  · intro h
    obtain ⟨steps, ⟨lines, hlines, rfl⟩, h⟩ := h
    exact ⟨lines, hlines, h⟩
  · intro h
    obtain ⟨lines, hlines, h⟩ := h
    exact ⟨_, ⟨lines, hlines, rfl⟩, h⟩

/-! ## The nodes of a document -/

/-- Whether the steps succeed or not, their nodes and links are those of the document. -/
theorem layout_eq {d : NetworkDocument} {lines : List Step} (h : d.LineSteps lines) :
    (d.stepsWith lines).map (fun step => (step.node, step.links)) = d.layout := by
  have hlines : lines.map (fun step => (step.node, step.links)) =
      (d.equipment.filter EquipmentDocument.isHvdcLine).map fun e =>
        (.equipment e.element, [.station .one, .station .two].zip e.stations) := by
    rw [← List.forall₂_eq_eq_eq, List.forall₂_map_left_iff, List.forall₂_map_right_iff]
    refine h.flip.imp fun step e hstep => ?_
    obtain ⟨-, a, b, hab, rfl⟩ := hstep
    rw [hab]
    rfl
  rw [stepsWith, layout, List.map_append, List.map_append, hlines, List.map_flatMap, List.map_map]
  refine congrArg₂ _ (congrArg₂ _ (congrArg (List.flatMap · _) ?_) rfl) rfl
  funext s
  rw [substationSteps, List.map_cons, List.map_map]
  rfl

theorem layout_ids_perm (d : NetworkDocument) :
    ((d.layout.map Prod.fst).map Node.id).Perm d.ids := by
  have hids : (d.layout.map Prod.fst).map Node.id =
      d.substations.flatMap (fun s => s.id :: s.levels.map VoltageLevelDocument.id) ++
        ((d.equipment.filter fun e => !e.isHvdcLine) ++
          d.equipment.filter EquipmentDocument.isHvdcLine).map EquipmentDocument.id := by
    simp only [layout, List.map_append, List.map_flatMap, List.map_cons, List.map_map,
      List.append_assoc]
    rfl
  rw [hids, ids]
  have hparts := List.filter_append_perm EquipmentDocument.isHvdcLine d.equipment
  exact ((List.perm_append_comm.trans hparts).map EquipmentDocument.id).append_left _

/-- What the first pass adds. -/
theorem mem_substationSteps_iff {s : SubstationDocument} {step : Step} :
    step ∈ substationSteps s ↔
      step = .substation { id := s.id, name := s.name, country := s.country } ∨
        ∃ v ∈ s.levels,
          step = .voltageLevel s.id { id := v.id, name := v.name, nominal := v.nominal } := by
  simp only [substationSteps, List.mem_cons, List.mem_map, eq_comm]

theorem exists_level_iff {d : NetworkDocument} {id : String} :
    (∃ node ∈ (d.substations.flatMap substationSteps).map Step.node,
      node.id = id ∧ node.isVoltageLevel = true) ↔ d.HasLevel id := by
  simp only [List.mem_map, List.mem_flatMap, mem_substationSteps_iff]
  constructor
  · intro h
    obtain ⟨node, ⟨step, ⟨s, hs, rfl | ⟨v, hv, rfl⟩⟩, rfl⟩, rfl, hlevel⟩ := h
    · cases hlevel
    · exact ⟨s, hs, v, hv, rfl⟩
  · intro h
    obtain ⟨s, hs, v, hv, rfl⟩ := h
    exact ⟨_, ⟨_, ⟨s, hs, .inr ⟨v, hv, rfl⟩⟩, rfl⟩, rfl, rfl⟩

theorem exists_station_iff {d : NetworkDocument} {id : String} :
    (∃ node ∈ (d.substations.flatMap substationSteps ++
        (d.equipment.filter fun e => !e.isHvdcLine).map equipmentStep).map Step.node,
      node.id = id ∧ node.isStation = true) ↔ d.HasStation id := by
  simp only [List.mem_map, List.mem_append, List.mem_flatMap, mem_substationSteps_iff,
    List.mem_filter]
  constructor
  · intro h
    obtain ⟨node, ⟨step, ⟨s, hs, rfl | ⟨v, hv, rfl⟩⟩ | ⟨e, ⟨he, -⟩, rfl⟩, rfl⟩, rfl, hstation⟩ := h
    · cases hstation
    · cases hstation
    · exact ⟨e, he, beq_iff_eq.1 hstation, rfl⟩
  · intro h
    obtain ⟨e, he, hk, rfl⟩ := h
    have hother : (!e.isHvdcLine) = true := by simp [EquipmentDocument.isHvdcLine, hk]
    exact ⟨_, ⟨_, .inr ⟨e, ⟨he, hother⟩, rfl⟩, rfl⟩, rfl, beq_iff_eq.2 hk⟩

/-! ## The three passes -/

theorem ordered_substationSteps {nodes : List Node} {s : SubstationDocument} :
    Ordered nodes (substationSteps s) ↔ ∀ v ∈ s.levels, v.nominal.isFinite = true := by
  rw [substationSteps, Ordered, Network.ordered_iff_of_unwanted, List.forall_mem_map]
  · have hsubstation : Step.Fits nodes
        (.substation { id := s.id, name := s.name, country := s.country }) :=
      ⟨trivial, fun id hid => by cases hid⟩
    rw [and_iff_right hsubstation]
    refine forall₂_congr fun v _ => ⟨fun hfits => hfits.shaped, fun hv => ⟨hv, fun id hid => ?_⟩⟩
    obtain rfl := List.mem_singleton.1 hid
    exact ⟨_, List.mem_append_right nodes (List.mem_singleton_self _), rfl, rfl⟩
  · intro a ha b hb
    obtain ⟨v, -, rfl⟩ := List.mem_map.1 ha
    obtain ⟨w, -, rfl⟩ := List.mem_map.1 hb
    rfl

/-- A voltage level finds its substation, which was added just before. -/
theorem ordered_substations {nodes : List Node} {substations : List SubstationDocument} :
    Ordered nodes (substations.flatMap substationSteps) ↔
      ∀ s ∈ substations, ∀ v ∈ s.levels, v.nominal.isFinite = true := by
  induction substations generalizing nodes with
  | nil => simp [Ordered]
  | cons s substations ih =>
    rw [List.flatMap_cons, Network.ordered_append, ordered_substationSteps, ih,
      List.forall_mem_cons]

theorem ordered_connected {nodes : List Node} {d : NetworkDocument} :
    Ordered nodes ((d.equipment.filter fun e => !e.isHvdcLine).map equipmentStep) ↔
      ∀ e ∈ d.equipment, e.kind ≠ .equipment .hvdcLine →
        e.terminals.length = e.kind.terminalCount ∧
          ∀ id ∈ e.terminals, ∃ node ∈ nodes, node.id = id ∧ node.isVoltageLevel = true := by
  rw [Network.ordered_iff_of_unwanted, List.forall_mem_map]
  · simp only [List.mem_filter, Bool.not_eq_true', ← Bool.not_eq_true, isHvdcLine_iff, and_imp]
    refine forall₂_congr fun e _ => forall_congr' fun hk => ?_
    constructor
    · intro hfits
      exact ⟨hfits.shaped.2, hfits.found⟩
    · intro h
      exact ⟨⟨hk, h.1⟩, h.2⟩
  · intro a ha b hb
    obtain ⟨e, -, rfl⟩ := List.mem_map.1 ha
    obtain ⟨e', -, rfl⟩ := List.mem_map.1 hb
    rfl

theorem ordered_lines {d : NetworkDocument} {lines : List Step} (h : d.LineSteps lines)
    {nodes : List Node} :
    Ordered nodes lines ↔ ∀ e ∈ d.equipment, e.kind = .equipment .hvdcLine →
      ∀ id ∈ e.stations, ∃ node ∈ nodes, node.id = id ∧ node.isStation = true := by
  rw [Network.ordered_iff_of_unwanted]
  · rw [← forall_iff_of_forall₂ (P := fun e : EquipmentDocument => ∀ id ∈ e.stations,
      ∃ node ∈ nodes, node.id = id ∧ node.isStation = true) h]
    · simp only [List.mem_filter, isHvdcLine_iff, and_imp]
    · intro e step hstep
      obtain ⟨hk, a, b, hab, rfl⟩ := hstep
      rw [hab]
      exact ⟨fun h => ⟨hk, h⟩, fun hfits => hfits.found⟩
  · have hline : ∀ step ∈ lines, ∃ e, LineStep e step :=
      forall_right_of_forall₂ h fun e _ hstep => ⟨e, hstep⟩
    intro x hx y hy
    obtain ⟨e, -, a, b, -, rfl⟩ := hline x hx
    obtain ⟨e', hk, a', b', -, rfl⟩ := hline y hy
    exact beq_false_of_ne fun hstation => by
      have := hk.symm.trans hstation
      cases this

/-! ## Acceptance -/

theorem exists_lines_iff {d : NetworkDocument} :
    (∃ lines, d.LineSteps lines) ↔
      ∀ e ∈ d.equipment, e.kind = .equipment .hvdcLine → e.stations.length = 2 := by
  constructor
  · intro h e he hk
    obtain ⟨lines, hlines⟩ := h
    obtain ⟨step, -, a, b, hab, -⟩ :=
      exists_of_forall₂ hlines (List.mem_filter.2 ⟨he, isHvdcLine_iff.2 hk⟩)
    rw [hab]
    rfl
  · intro h
    refine exists_forall₂ fun e he => ?_
    obtain ⟨he, hk⟩ := List.mem_filter.1 he
    rw [isHvdcLine_iff] at hk
    obtain ⟨a, b, hab⟩ := List.length_eq_two.1 (h e he hk)
    exact ⟨_, hk, a, b, hab, rfl⟩

theorem node_eq {d : NetworkDocument} {lines : List Step} (h : d.LineSteps lines) :
    (d.stepsWith lines).map Step.node = d.layout.map Prod.fst := by
  rw [← layout_eq h, List.map_map]
  rfl

/-- Once every HVDC line names two converter stations, the order of the passes decides nothing. -/
theorem exists_foldlM_iff {d : NetworkDocument} {lines : List Step} (h : d.LineSteps lines) :
    (∃ net, (d.stepsWith lines).foldlM Network.add Network.empty = .ok net) ↔ d.Acceptable := by
  have hgiven : (∀ step ∈ d.stepsWith lines, Text.blank step.node.id = false) ↔
      ∀ id ∈ d.ids, Text.blank id = false := by
    simp only [← (layout_ids_perm d).mem_iff, ← node_eq h, List.forall_mem_map]
  have hnodup : ((Network.empty.nodes ++ (d.stepsWith lines).map Step.node).map Node.id).Nodup ↔
      d.ids.Nodup := by
    rw [node_eq h, ← (layout_ids_perm d).nodup_iff]
    rfl
  have hlength := exists_lines_iff.1 ⟨lines, h⟩
  rw [Network.built_empty.foldlM_add_iff, hgiven, hnodup]
  simp only [stepsWith, Network.ordered_append, ordered_substations, ordered_connected,
    ordered_lines h, Network.empty, List.nil_append, exists_level_iff, exists_station_iff]
  constructor
  · intro hsteps
    obtain ⟨hgiven, hnodup, ⟨hvoltages, hterminals⟩, hstations⟩ := hsteps
    exact ⟨hgiven, hnodup, hvoltages, hterminals,
      fun e he hk => ⟨hlength e he hk, hstations e he hk⟩⟩
  · intro hd
    exact ⟨hd.ids_given, hd.ids_nodup, ⟨hd.voltages, hd.terminals⟩,
      fun e he hk => (hd.stations e he hk).2⟩

theorem exists_toNetwork_iff (d : NetworkDocument) :
    (∃ net, d.toNetwork = .ok net) ↔ d.Acceptable := by
  simp only [toNetwork_eq_ok_iff]
  constructor
  · intro h
    obtain ⟨net, lines, hlines, hnet⟩ := h
    exact (exists_foldlM_iff hlines).1 ⟨net, hnet⟩
  · intro h
    obtain ⟨lines, hlines⟩ := exists_lines_iff.2 fun e he hk => (h.stations e he hk).1
    obtain ⟨net, hnet⟩ := (exists_foldlM_iff hlines).2 h
    exact ⟨net, lines, hlines, hnet⟩

theorem exists_built_of_toNetwork {d : NetworkDocument} {net : Network}
    (h : d.toNetwork = .ok net) : ∃ log, net.Built log := by
  obtain ⟨lines, -, hfold⟩ := toNetwork_eq_ok_iff.1 h
  exact ⟨_, Network.built_empty.foldlM_add hfold⟩

theorem laidOut_of_toNetwork {d : NetworkDocument} {net : Network} (h : d.toNetwork = .ok net) :
    d.LaidOut net := by
  obtain ⟨lines, hlines, hfold⟩ := toNetwork_eq_ok_iff.1 h
  have hbuilt : net.Built (d.stepsWith lines) := Network.built_empty.foldlM_add hfold
  refine ⟨hbuilt.nodes_eq.trans (node_eq hlines), fun id i => hbuilt.position?_eq_some_iff, ?_,
    fun edge he => (hbuilt.edges_back edge he).2⟩
  intro i node links hi
  rw [← layout_eq hlines, List.getElem?_map] at hi
  obtain ⟨step, hstep, heq⟩ := Option.map_eq_some_iff.1 hi
  obtain ⟨-, rfl⟩ := Prod.mk.inj heq
  exact hbuilt.linked hstep

theorem isHvdcLine_relevantEquipment (e : EquipmentDocument) :
    (relevantEquipment e).isHvdcLine = e.isHvdcLine := by
  unfold relevantEquipment
  split <;> rfl

/-- What is left out is not in any step. -/
theorem relevant_plan (d : NetworkDocument) : d.relevant.plan = d.plan := by
  have hconnected : ((d.relevant.equipment.filter fun e => !e.isHvdcLine).map fun e =>
      (.ok (equipmentStep e) : Except Network.Fault Step)) =
        (d.equipment.filter fun e => !e.isHvdcLine).map fun e => .ok (equipmentStep e) := by
    simp only [relevant, List.filter_map, List.map_map, Function.comp_def,
      isHvdcLine_relevantEquipment]
    refine List.map_congr_left fun e he => ?_
    have hline : ¬ e.isHvdcLine = true := by simpa using (List.mem_filter.1 he).2
    rw [relevantEquipment, if_neg hline]
    rfl
  have hlines : (d.relevant.equipment.filter EquipmentDocument.isHvdcLine).map hvdcStep =
      (d.equipment.filter EquipmentDocument.isHvdcLine).map hvdcStep := by
    simp only [relevant, List.filter_map, List.map_map, Function.comp_def,
      isHvdcLine_relevantEquipment]
    refine List.map_congr_left fun e he => ?_
    rw [relevantEquipment, if_pos (List.mem_filter.1 he).2]
    rfl
  rw [plan, plan, hconnected, hlines]
  rfl

/-- A document makes a network exactly when it is acceptable, the network is then laid out as the
document says, and nothing else of the document is read. -/
theorem toNetwork_exact (d : NetworkDocument) :
    ((∃ net, d.toNetwork = .ok net) ↔ d.Acceptable) ∧
      (∀ net, d.toNetwork = .ok net → d.LaidOut net) ∧ d.relevant.toNetwork = d.toNetwork := by
  refine ⟨exists_toNetwork_iff d, fun net => laidOut_of_toNetwork, ?_⟩
  rw [toNetwork, toNetwork, relevant_plan]

/-- An HVDC line may be listed before its converter stations. -/
example : (toNetwork
    { substations := [{ id := "S", levels := [{ id := "V", nominal := .ofInt 400 }] }]
      equipment := [
        { id := "H", kind := .equipment .hvdcLine, stations := ["A", "B"] },
        { id := "A", kind := .converterStation, terminals := ["V"] },
        { id := "B", kind := .converterStation, terminals := ["V"] }] }).isOk = true := by
  decide +kernel

end GridOutage.NetworkDocument
