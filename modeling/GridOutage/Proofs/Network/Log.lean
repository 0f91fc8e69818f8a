import GridOutage.Proofs.Network.Growth

/-!
# A network is its log

The log of a run is the list of the attempts that succeeded. A run and its log make the same
network (`foldl_logFrom`), and `Built` says what that network is: one node for each logged step, in
order, and for each node the edges that its step joins. `Built` starts empty, one addition keeps it
(`Built.add`), and so every run reaches it (`built_run`).

* `outcomes`: what each attempt of a run answers.
* `Reflects`: what the queries answer, said of the logged steps alone.
-/
namespace GridOutage.Network

/-- The attempts that succeed, starting from a network. -/
def logFrom (net : Network) : List Step → List Step
  | [] => []
  | step :: steps =>
    match net.add step with
    | .ok after => step :: after.logFrom steps
    | .error _ => net.logFrom steps

/-- The log of a run: its successful attempts, in order. -/
def log (steps : List Step) : List Step := logFrom empty steps

/-- What each attempt answers, starting from a network: the position of the new node or the fault. -/
def outcomesFrom (net : Network) : List Step → List (Except Fault Nat)
  | [] => []
  | step :: steps =>
    (net.add step).map (fun _ => net.nodes.length) :: (net.attempt step).outcomesFrom steps

def outcomes (steps : List Step) : List (Except Fault Nat) := outcomesFrom empty steps

/-! ## Failed attempts leave no trace -/

theorem attempt_of_ok {net after : Network} {step : Step} (h : net.add step = .ok after) :
    net.attempt step = after := by
  rw [attempt, h]

theorem attempt_of_error {net : Network} {step : Step} {fault : Fault}
    (h : net.add step = .error fault) : net.attempt step = net := by
  rw [attempt, h]

theorem foldl_logFrom (net : Network) (steps : List Step) :
    (net.logFrom steps).foldl attempt net = steps.foldl attempt net := by
  induction steps generalizing net with
  | nil => rfl
  | cons step steps ih =>
    unfold logFrom
    rw [List.foldl_cons]
    cases h : net.add step with
    | error fault =>
      rw [attempt_of_error h]
      exact ih net
    | ok after =>
      simp only [List.foldl_cons]
      rw [attempt_of_ok h]
      exact ih after

theorem logFrom_sublist (net : Network) (steps : List Step) :
    (net.logFrom steps).Sublist steps := by
  induction steps generalizing net with
  | nil => exact .slnil
  | cons step steps ih =>
    unfold logFrom
    split
    · exact (ih _).cons_cons step
    · exact (ih _).cons step

theorem logFrom_append (net : Network) (before after : List Step) :
    net.logFrom (before ++ after) =
      net.logFrom before ++ (before.foldl attempt net).logFrom after := by
  induction before generalizing net with
  | nil => rfl
  | cons step before ih =>
    simp only [List.cons_append, logFrom, List.foldl_cons]
    cases h : net.add step with
    | error fault =>
      rw [attempt_of_error h]
      exact ih net
    | ok next =>
      rw [attempt_of_ok h, List.cons_append]
      exact congrArg _ (ih next)

theorem outcomesFrom_append (net : Network) (before after : List Step) :
    net.outcomesFrom (before ++ after) =
      net.outcomesFrom before ++ (before.foldl attempt net).outcomesFrom after := by
  induction before generalizing net with
  | nil => rfl
  | cons step before ih => simp only [List.cons_append, outcomesFrom, List.foldl_cons, ih]

/-- Run on its own, the log gives the successful answers again and no other. -/
theorem outcomesFrom_logFrom (net : Network) (steps : List Step) :
    net.outcomesFrom (net.logFrom steps) = (net.outcomesFrom steps).filter (·.isOk) := by
  induction steps generalizing net with
  | nil => rfl
  | cons step steps ih =>
    unfold logFrom
    cases h : net.add step with
    | error fault =>
      simp only [outcomesFrom, h, attempt_of_error h, Except.map]
      exact ih net
    | ok after =>
      simp only [outcomesFrom, h, attempt_of_ok h, Except.map]
      exact congrArg _ (ih after)

/-! ## The invariant -/

/-- A network is what the logged steps make, each step's edges read off the network itself. -/
structure Built (net : Network) (log : List Step) : Prop where
  nodes_eq : net.nodes = log.map Step.node
  /-- The index has the position of each node under the node's identifier, and nothing else. -/
  index_eq : net.index = net.nodes.zipIdx.map fun (node, i) => (node.id, i)
  ids_nodup : (net.nodes.map Node.id).Nodup
  ids_given : ∀ node ∈ net.nodes, Text.blank node.id = false
  joined : ∀ (i : Nat) (step : Step), log[i]? = some step → net.Joins step (net.outgoing i)
  edges_back : ∀ edge ∈ net.edges, edge.target < edge.source ∧ edge.source < net.nodes.length

theorem Built.position?_eq_some_iff {net : Network} {log : List Step} (h : net.Built log)
    {id : String} {i : Nat} :
    net.position? id = some i ↔ ∃ node, net.nodes[i]? = some node ∧ node.id = id := by
  have hkeys : (net.index.map Prod.fst).Nodup := by
    have : net.index.map Prod.fst = net.nodes.map Node.id := by
      rw [h.index_eq, List.map_map]
      change net.nodes.zipIdx.map (Node.id ∘ Prod.fst) = _
      rw [← List.map_map, List.zipIdx_map_fst]
    rw [this]
    exact h.ids_nodup
  rw [position?, Outcome.lookup_eq_some_iff_mem hkeys, h.index_eq, List.mem_map]
  constructor
  · intro h
    obtain ⟨⟨node, j⟩, hm, he⟩ := h
    cases he
    exact ⟨node, List.mem_zipIdx_iff_getElem?.1 hm, rfl⟩
  · intro h
    obtain ⟨node, hn, rfl⟩ := h
    exact ⟨(node, i), List.mem_zipIdx_iff_getElem?.2 hn, rfl⟩

theorem built_empty : empty.Built [] where
  nodes_eq := rfl
  index_eq := rfl
  ids_nodup := List.nodup_nil
  ids_given := by simp [empty]
  joined := by simp
  edges_back := by simp [empty]

theorem outgoing_extend_self {net : Network} (h : ∀ edge ∈ net.edges, edge.source < net.nodes.length)
    (node : Node) (links : List (Link × Nat)) :
    (net.extend node links).outgoing net.nodes.length = links := by
  have hold : net.edges.filter (·.source == net.nodes.length) = [] := by
    rw [List.filter_eq_nil_iff]
    intro edge he
    have := h edge he
    simp only [beq_iff_eq]
    omega
  simp [outgoing, extend, List.filter_append, hold, List.filter_map, Function.comp_def]

/-- One addition keeps the invariant and adds itself to the log. -/
theorem Built.add {net after : Network} {log : List Step} {step : Step} (h : net.Built log)
    (ha : net.add step = .ok after) : after.Built (log ++ [step]) := by
  obtain ⟨⟨hgiven, hfresh⟩, links, hj, rfl⟩ := add_eq_ok_iff.1 ha
  have hext := extends_extend net step.node links
  have hlen : net.nodes.length = log.length := by rw [h.nodes_eq, List.length_map]
  refine ⟨?_, ?_, ?_, ?_, ?_, ?_⟩
  · simp [extend, h.nodes_eq]
  · simp [extend, h.index_eq, List.zipIdx_append]
  · -- The new identifier has no position, so no node has it.
    have hnew : step.node.id ∉ net.nodes.map Node.id := by
      intro hm
      obtain ⟨node, hnode, he⟩ := List.mem_map.1 hm
      obtain ⟨i, hi⟩ := List.mem_iff_getElem?.1 hnode
      have := h.position?_eq_some_iff.2 ⟨node, hi, he⟩
      rw [hfresh] at this
      cases this
    simpa [extend, List.nodup_append, h.ids_nodup] using fun node hn he => hnew
      (List.mem_map.2 ⟨node, hn, he⟩)
  · intro node hn
    rcases List.mem_append.1 hn with hn | hn
    · exact h.ids_given node hn
    · rw [List.mem_singleton] at hn
      subst hn
      exact hgiven
  · intro i s hs
    rcases Nat.lt_or_ge i log.length with hi | hi
    · rw [List.getElem?_append_left hi] at hs
      rw [hext.outgoing i (by omega)]
      exact (h.joined i s hs).mono hext
    · -- The only step from there on is the new one.
      rw [List.getElem?_append_right hi] at hs
      obtain ⟨hi', rfl⟩ : i - log.length = 0 ∧ step = s := by
        cases hd : i - log.length with
        | zero => simpa [hd] using hs
        | succ n => simp [hd] at hs
      obtain rfl : i = net.nodes.length := by omega
      rw [outgoing_extend_self fun e he => (h.edges_back e he).2]
      exact hj.mono hext
  · intro edge he
    simp only [extend, List.length_append, List.length_singleton]
    rcases List.mem_append.1 he with he | he
    · have := h.edges_back edge he
      omega
    · obtain ⟨l, hl, rfl⟩ := List.mem_map.1 he
      have := hj.target_lt hl
      simp only
      omega

theorem Built.foldl {net : Network} {log : List Step} (h : net.Built log) (steps : List Step) :
    (steps.foldl attempt net).Built (log ++ net.logFrom steps) := by
  induction steps generalizing net log with
  | nil => simpa [logFrom] using h
  | cons step steps ih =>
    rw [List.foldl_cons]
    unfold logFrom
    cases hadd : net.add step with
    | error fault =>
      rw [attempt_of_error hadd]
      exact ih h
    | ok after =>
      rw [attempt_of_ok hadd]
      simpa using ih (h.add hadd)

/-- Every run reaches a network that its log describes. -/
theorem built_run (steps : List Step) : (run steps).Built (log steps) :=
  built_empty.foldl steps

/-! ## What a built network answers -/

/-- The step that made the node at a position, with what it joined the node to. -/
theorem Built.step_at {net : Network} {log : List Step} (h : net.Built log) {i : Nat} {node : Node}
    (hn : net.nodes[i]? = some node) :
    ∃ step, log[i]? = some step ∧ step.node = node ∧ net.Joins step (net.outgoing i) := by
  rw [h.nodes_eq, List.getElem?_map] at hn
  obtain ⟨step, hs, he⟩ := Option.map_eq_some_iff.1 hn
  exact ⟨step, hs, he, h.joined i step hs⟩

/-- A voltage level is in a substation, and both are as their steps gave them. -/
theorem Built.level_at {net : Network} {log : List Step} (h : net.Built log) {i : Nat}
    {v : VoltageLevel} (hv : net.nodes[i]? = some (.voltageLevel v)) :
    ∃ j s, net.outgoing i = [(.locatedIn, j)] ∧ net.nodes[j]? = some (.substation s) ∧
      v.nominal.isFinite = true ∧ .voltageLevel s.id v ∈ log ∧ .substation s ∈ log := by
  obtain ⟨step, hstep, hnode, hj⟩ := h.step_at hv
  generalize hl : net.outgoing i = links at hj
  cases hj with
  | substation s => cases hnode
  | equipment hk hn ht => cases hnode
  | hvdcLine hk ha hb => cases hnode
  | @voltageLevel sub v' j hs hfin =>
    cases hnode
    obtain ⟨hp, node, hj, hsub⟩ := hs
    obtain ⟨node', hj', rfl⟩ := h.position?_eq_some_iff.1 hp
    obtain rfl : node = node' := by rw [hj] at hj'; exact Option.some.inj hj'
    cases node with
    | voltageLevel v' => cases hsub
    | equipment e => cases hsub
    | substation s =>
      obtain ⟨step', hstep', hnode', -⟩ := h.step_at hj
      obtain rfl : step' = .substation s := by cases step' <;> cases hnode'; rfl
      exact ⟨j, s, rfl, hj, hfin, List.mem_of_getElem? hstep, List.mem_of_getElem? hstep'⟩

/-- A terminal at the voltage level of an identifier, as the log tells of it: the voltage is the
one given for the level, the country the one given for the substation it was put in. -/
def AsLogged (net : Network) (log : List Step) (id : String) (t : Terminal) : Prop :=
  net.position? id = some t.level ∧
    ∃ v s, .voltageLevel s.id v ∈ log ∧ v.id = id ∧ .substation s ∈ log ∧
      net.nominalVoltage? t = some v.nominal ∧ net.country? t = s.country

theorem Built.asLogged {net : Network} {log : List Step} (h : net.Built log) {id : String} {i : Nat}
    (hf : net.Finds id Node.isVoltageLevel i) (side : Side) : net.AsLogged log id ⟨side, i⟩ := by
  obtain ⟨hp, node, hi, hlevel⟩ := hf
  obtain ⟨node', hi', rfl⟩ := h.position?_eq_some_iff.1 hp
  obtain rfl : node = node' := by rw [hi] at hi'; exact Option.some.inj hi'
  cases node with
  | substation s => cases hlevel
  | equipment e => cases hlevel
  | voltageLevel v =>
    obtain ⟨j, s, hout, hj, -, hv, hs⟩ := h.level_at hi
    refine ⟨hp, v, s, hv, rfl, hs, ?_, ?_⟩
    · simp [nominalVoltage?, voltageLevel?, hi, Node.voltageLevel?]
    · simp [ country?, substation?_of_located hout hj]

theorem forall₂_zipWith_terminal {R : String → Nat → Prop} {Q : String → Terminal → Prop}
    (hRQ : ∀ id side i, R id i → Q id ⟨side, i⟩) {levels : List String} {targets : List Nat}
    (h : List.Forall₂ R levels targets) {sides : List Side} (hlen : levels.length ≤ sides.length) :
    List.Forall₂ Q levels (List.zipWith Terminal.mk sides targets) := by
  induction h generalizing sides with
  | nil => simp
  | cons hr _ ih =>
    cases sides with
    | nil => simp at hlen
    | cons side sides => exact .cons (hRQ _ side _ hr) (ih (by simpa using hlen))

/-- What a pairing keeps of its left list. -/
theorem map_zipWith_left {α β γ : Type} {f : α → β → γ} {g : γ → α} (hg : ∀ a b, g (f a b) = a)
    (xs : List α) (ys : List β) : (List.zipWith f xs ys).map g = xs.take ys.length := by
  induction xs generalizing ys with
  | nil => simp
  | cons x xs ih => cases ys <;> simp [hg, ih]

theorem terminalCount_le_sides (kind : ElementKind) : kind.terminalCount ≤ Side.all.length := by
  cases kind with
  | equipment type => cases type <;> decide
  | converterStation => decide
  | bus => decide

/-- What the queries on a network answer, said of the steps that made it. -/
structure Reflects (net : Network) (log : List Step) : Prop where
  nodes_eq : net.nodes = log.map Step.node
  ids_nodup : (log.map fun step => step.node.id).Nodup
  position : ∀ (i : Nat) (step : Step), log[i]? = some step →
    net.position? step.node.id = some i
  /-- An element has a terminal at each of its voltage levels, in the order of the sides. -/
  equipment : ∀ e levels, .equipment e levels ∈ log → ∃ i, net.position? e.id = some i ∧
    net.equipmentAt? i = some e ∧
    (net.terminals i).map Terminal.side = Side.all.take levels.length ∧
    List.Forall₂ (net.AsLogged log) levels (net.terminals i)
  hvdcLine : ∀ e a b, .hvdcLine e a b ∈ log → ∃ i, net.position? e.id = some i ∧
    net.equipmentAt? i = some e ∧ net.terminals i = [] ∧
    (net.station? i .one).isSome ∧ net.station? i .one = net.position? a ∧
    (net.station? i .two).isSome ∧ net.station? i .two = net.position? b
  stats_eq : net.stats = ⟨log.countP (·.node.isSubstation), log.countP (·.node.isVoltageLevel),
    log.countP (·.node.equipment?.isSome)⟩

theorem Built.reflects {net : Network} {log : List Step} (h : net.Built log) :
    net.Reflects log where
  nodes_eq := h.nodes_eq
  ids_nodup := by
    have := h.ids_nodup
    rwa [h.nodes_eq, List.map_map] at this
  position i step hs := h.position?_eq_some_iff.2
    ⟨step.node, by rw [h.nodes_eq, List.getElem?_map, hs, Option.map_some], rfl⟩
  equipment e levels hm := by
    obtain ⟨i, hi⟩ := List.mem_iff_getElem?.1 hm
    have hn : net.nodes[i]? = some (.equipment e) := by
      rw [h.nodes_eq, List.getElem?_map, hi, Option.map_some, Step.node]
    have hj := h.joined i _ hi
    generalize hl : net.outgoing i = links at hj
    cases hj with
    | equipment hk hcount ht =>
      have hsides : levels.length ≤ Side.all.length := hcount ▸ terminalCount_le_sides e.kind
      refine ⟨i, h.position?_eq_some_iff.2 ⟨_, hn, rfl⟩, ?_, ?_, ?_⟩
      · simp [equipmentAt?, hn, Node.equipment?]
      · rw [terminals_of_zip hl, map_zipWith_left (fun _ _ => rfl), ht.length_eq]
      · rw [terminals_of_zip hl]
        exact forall₂_zipWith_terminal (R := (net.Finds · Node.isVoltageLevel))
          (fun _ side _ hf => h.asLogged hf side) ht hsides
  hvdcLine e a b hm := by
    obtain ⟨i, hi⟩ := List.mem_iff_getElem?.1 hm
    have hn : net.nodes[i]? = some (.equipment e) := by
      rw [h.nodes_eq, List.getElem?_map, hi, Option.map_some, Step.node]
    have hj := h.joined i _ hi
    generalize hl : net.outgoing i = links at hj
    cases hj with
    | hvdcLine hk ha hb =>
      obtain ⟨h1, h2⟩ := station?_of_stations hl
      refine ⟨i, h.position?_eq_some_iff.2 ⟨_, hn, rfl⟩, ?_, terminals_of_stations hl, ?_⟩
      · simp [equipmentAt?, hn, Node.equipment?]
      · simp [h1, h2, ha.1, hb.1]
  stats_eq := by simp only [stats, h.nodes_eq, List.countP_map]; rfl

/-! ## Runs -/

/-- A run and its log make the same network with the same answers, failed attempts change nothing
for the others, and what the network answers is what the log tells. -/
theorem run_reflects_log (steps : List Step) :
    (log steps).Sublist steps ∧
    run (log steps) = run steps ∧
    outcomes (log steps) = (outcomes steps).filter (·.isOk) ∧
    (∀ before failed later fault, steps = before ++ failed :: later →
      (run before).add failed = .error fault →
        run steps = run (before ++ later) ∧ log steps = log (before ++ later) ∧
        ∃ answers, outcomes steps = outcomes before ++ .error fault :: answers ∧
          outcomes (before ++ later) = outcomes before ++ answers) ∧
    (run steps).Reflects (log steps) := by
  refine ⟨logFrom_sublist empty steps, foldl_logFrom empty steps, outcomesFrom_logFrom empty steps,
    ?_, (built_run steps).reflects⟩
  intro before failed later fault hsteps hfail
  subst hsteps
  have hfail' : (before.foldl attempt empty).add failed = .error fault := hfail
  refine ⟨?_, ?_, (before.foldl attempt empty).outcomesFrom later, ?_, ?_⟩
  · simp only [run, List.foldl_append, List.foldl_cons, attempt_of_error hfail']
  · simp only [log, logFrom_append, logFrom, hfail']
  · simp only [outcomes, outcomesFrom_append, outcomesFrom, attempt_of_error hfail', hfail',
      Except.map]
  · simp only [outcomes, outcomesFrom_append]

end GridOutage.Network
