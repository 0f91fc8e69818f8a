import GridOutage.Proofs.Network.Log

/-!
# The shape of every network

`WellFormed` is what holds of the nodes, the index and the edges of every network that attempts
to add elements can reach. It is read off `Built`, the invariant that one addition keeps.

`Resolves` is what the queries make of it: whatever an element is connected to is there, so no walk
from an element to its voltages and countries ends early.
-/
namespace GridOutage.Network

open Outcome

structure WellFormed (net : Network) : Prop where
  /-- The index lists every node's identifier with its position, and nothing else. -/
  index_eq : net.index = net.nodes.zipIdx.map fun (node, i) => (node.id, i)
  position?_iff : ∀ (id : String) (i : Nat),
    net.position? id = some i ↔ ∃ node, net.nodes[i]? = some node ∧ node.id = id
  ids_nodup : (net.nodes.map Node.id).Nodup
  ids_given : ∀ node ∈ net.nodes, Text.blank node.id = false
  substation : ∀ (i : Nat) (s : Substation), net.nodes[i]? = some (.substation s) →
    net.outgoing i = []
  voltageLevel : ∀ (i : Nat) (v : VoltageLevel), net.nodes[i]? = some (.voltageLevel v) →
    v.nominal.isFinite = true ∧
      ∃ j s, net.outgoing i = [(.locatedIn, j)] ∧ net.nodes[j]? = some (.substation s)
  equipment : ∀ (i : Nat) (e : Equipment), net.nodes[i]? = some (.equipment e) →
    e.kind ≠ .equipment .hvdcLine →
      (net.outgoing i).length = e.kind.terminalCount ∧
      (net.outgoing i).map Prod.fst = (Side.all.take e.kind.terminalCount).map .terminal ∧
      ∀ edge ∈ net.outgoing i, ∃ v, net.nodes[edge.2]? = some (.voltageLevel v)
  hvdcLine : ∀ (i : Nat) (e : Equipment), net.nodes[i]? = some (.equipment e) →
    e.kind = .equipment .hvdcLine →
      ∃ j k, net.outgoing i = [(.station .one, j), (.station .two, k)] ∧
        (∃ s, net.nodes[j]? = some (.equipment s) ∧ s.kind = .converterStation) ∧
        ∃ s, net.nodes[k]? = some (.equipment s) ∧ s.kind = .converterStation
  /-- Every edge goes from a node to one that was added before it. -/
  edges_back : ∀ edge ∈ net.edges, edge.target < edge.source ∧ edge.source < net.nodes.length

structure Resolves (net : Network) : Prop where
  /-- An element has one terminal at each side that its kind has. -/
  sides : ∀ (i : Nat) (e : Equipment), net.equipmentAt? i = some e →
    (net.terminals i).map Terminal.side = Side.all.take e.kind.terminalCount
  terminal : ∀ (i : Nat) (e : Equipment), net.equipmentAt? i = some e → ∀ t ∈ net.terminals i,
    ∃ v s, net.nominalVoltage? t = some v ∧ v.isFinite = true ∧
      net.substation? t.level = some s ∧ net.country? t = s.country
  stations : ∀ (i : Nat) (e : Equipment), net.equipmentAt? i = some e →
    e.kind = .equipment .hvdcLine → ∀ side ∈ [Side.one, Side.two],
      ∃ j s, net.station? i side = some j ∧ net.equipmentAt? j = some s ∧
        s.kind = .converterStation

theorem equipmentAt?_eq_some_iff {net : Network} {i : Nat} {e : Equipment} :
    net.equipmentAt? i = some e ↔ net.nodes[i]? = some (.equipment e) := by
  unfold equipmentAt?
  cases net.nodes[i]? with
  | none => simp
  | some node => cases node <;> simp [Node.equipment?]

/-! ## Reading the invariant off the log -/

theorem Finds.voltageLevel {net : Network} {id : String} {i : Nat}
    (h : net.Finds id Node.isVoltageLevel i) : ∃ v, net.nodes[i]? = some (.voltageLevel v) := by
  obtain ⟨-, node, hi, hlevel⟩ := h
  cases node with
  | substation s => cases hlevel
  | voltageLevel v => exact ⟨v, hi⟩
  | equipment e => cases hlevel

theorem Finds.station {net : Network} {id : String} {i : Nat}
    (h : net.Finds id Node.isStation i) :
    ∃ e, net.nodes[i]? = some (.equipment e) ∧ e.kind = .converterStation := by
  obtain ⟨-, node, hi, hstation⟩ := h
  cases node with
  | substation s => cases hstation
  | voltageLevel v => cases hstation
  | equipment e => exact ⟨e, hi, by simpa [Node.isStation] using hstation⟩

theorem level_mem_of_mem_zipWith {sides : List Side} {levels : List Nat} {t : Terminal}
    (h : t ∈ List.zipWith Terminal.mk sides levels) : t.level ∈ levels := by
  rw [← List.map_uncurry_zip_eq_zipWith] at h
  obtain ⟨p, hp, rfl⟩ := List.mem_map.1 h
  exact (List.of_mem_zip (a := p.1) (b := p.2) hp).2

/-- The edges of an element other than an HVDC line, one for each of its sides. -/
theorem Built.equipment_at {net : Network} {log : List Step} (h : net.Built log) {i : Nat}
    {e : Equipment} (he : net.nodes[i]? = some (.equipment e))
    (hk : e.kind ≠ .equipment .hvdcLine) :
    ∃ levels, net.outgoing i = (Side.all.map Link.terminal).zip levels ∧
      levels.length = e.kind.terminalCount ∧
      ∀ j ∈ levels, ∃ v, net.nodes[j]? = some (.voltageLevel v) := by
  obtain ⟨step, -, hnode, hj⟩ := h.step_at he
  generalize hl : net.outgoing i = links at hj
  cases hj with
  | substation s => cases hnode
  | voltageLevel hs hv => cases hnode
  | hvdcLine hk' ha hb =>
    cases hnode
    exact absurd hk' hk
  | @equipment e' ids levels _ hn ht =>
    cases hnode
    exact ⟨levels, rfl, ht.length_eq ▸ hn, forall_right_of_forall₂ ht fun _ _ hf => hf.voltageLevel⟩

/-- The edges of an HVDC line, one to each of its converter stations. -/
theorem Built.hvdcLine_at {net : Network} {log : List Step} (h : net.Built log) {i : Nat}
    {e : Equipment} (he : net.nodes[i]? = some (.equipment e))
    (hk : e.kind = .equipment .hvdcLine) :
    ∃ j k, net.outgoing i = [(.station .one, j), (.station .two, k)] ∧
      (∃ s, net.nodes[j]? = some (.equipment s) ∧ s.kind = .converterStation) ∧
      ∃ s, net.nodes[k]? = some (.equipment s) ∧ s.kind = .converterStation := by
  obtain ⟨step, -, hnode, hj⟩ := h.step_at he
  generalize hl : net.outgoing i = links at hj
  cases hj with
  | substation s => cases hnode
  | voltageLevel hs hv => cases hnode
  | equipment hk' hn ht =>
    cases hnode
    exact absurd hk hk'
  | hvdcLine _ ha hb =>
    cases hnode
    exact ⟨_, _, rfl, ha.station, hb.station⟩

theorem Built.wellFormed {net : Network} {log : List Step} (h : net.Built log) :
    net.WellFormed where
  index_eq := h.index_eq
  position?_iff _ _ := h.position?_eq_some_iff
  ids_nodup := h.ids_nodup
  ids_given := h.ids_given
  substation i s hs := by
    obtain ⟨step, -, hnode, hj⟩ := h.step_at hs
    generalize net.outgoing i = links at hj ⊢
    cases hj with
    | substation s => rfl
    | voltageLevel hs hv => cases hnode
    | equipment hk hn ht => cases hnode
    | hvdcLine hk ha hb => cases hnode
  voltageLevel i v hv := by
    obtain ⟨j, s, hout, hj, hfin, -, -⟩ := h.level_at hv
    exact ⟨hfin, j, s, hout, hj⟩
  equipment i e he hk := by
    obtain ⟨levels, hout, hlen, hlevels⟩ := h.equipment_at he hk
    have hle := terminalCount_le_sides e.kind
    refine ⟨?_, ?_, ?_⟩
    · rw [hout, List.length_zip, List.length_map, hlen]
      omega
    · rw [hout, List.zip, map_zipWith_left (fun _ _ => rfl), hlen, List.map_take]
    · intro edge hedge
      rw [hout] at hedge
      exact hlevels edge.2 (List.of_mem_zip (a := edge.1) (b := edge.2) hedge).2
  hvdcLine i e he hk := h.hvdcLine_at he hk
  edges_back := h.edges_back

theorem Built.resolves {net : Network} {log : List Step} (h : net.Built log) : net.Resolves where
  sides i e he := by
    have he := equipmentAt?_eq_some_iff.1 he
    by_cases hk : e.kind = .equipment .hvdcLine
    · obtain ⟨j, k, hout, -, -⟩ := h.hvdcLine_at he hk
      rw [terminals_of_stations hout, hk]
      rfl
    · obtain ⟨levels, hout, hlen, -⟩ := h.equipment_at he hk
      rw [terminals_of_zip hout, map_zipWith_left (fun _ _ => rfl), hlen]
  terminal i e he t ht := by
    have he := equipmentAt?_eq_some_iff.1 he
    by_cases hk : e.kind = .equipment .hvdcLine
    · obtain ⟨j, k, hout, -, -⟩ := h.hvdcLine_at he hk
      rw [terminals_of_stations hout] at ht
      cases ht
    · obtain ⟨levels, hout, -, hlevels⟩ := h.equipment_at he hk
      rw [terminals_of_zip hout] at ht
      obtain ⟨v, hv⟩ := hlevels t.level (level_mem_of_mem_zipWith ht)
      obtain ⟨j, s, hout, hj, hfin, -, -⟩ := h.level_at hv
      have hs := substation?_of_located hout hj
      refine ⟨v.nominal, s, ?_, hfin, hs, ?_⟩
      · simp [nominalVoltage?, voltageLevel?, hv, Node.voltageLevel?]
      · simp [ country?, hs]
  stations i e he hk side hside := by
    have he := equipmentAt?_eq_some_iff.1 he
    obtain ⟨j, k, hout, ⟨a, ha, hak⟩, b, hb, hbk⟩ := h.hvdcLine_at he hk
    obtain ⟨h1, h2⟩ := station?_of_stations hout
    simp only [List.mem_cons, List.not_mem_nil, or_false] at hside
    rcases hside with rfl | rfl
    · exact ⟨j, a, h1, equipmentAt?_eq_some_iff.2 ha, hak⟩
    · exact ⟨k, b, h2, equipmentAt?_eq_some_iff.2 hb, hbk⟩

/-- Whatever is attempted in whatever order, the network is well formed and its queries resolve. -/
theorem run_wellFormed (steps : List Step) : (run steps).WellFormed ∧ (run steps).Resolves :=
  ⟨(built_run steps).wellFormed, (built_run steps).resolves⟩

end GridOutage.Network
