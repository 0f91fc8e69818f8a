import GridOutage.Proofs.Network.Alike
import GridOutage.Proofs.Network.Order

/-!
# Turning an element

A step is turned when it gives the first two voltage levels of its element, or the two converter
stations of its HVDC line, in the opposite order. The turned step fails or succeeds with the other
one, and whatever is attempted later does too, for that is a matter of the nodes alone
(`logFrom_congr`). So two runs with one step turned make the same network or log the same but for
that step (`run_turned`).

In the second case nothing but the element's own edges differs: seen from any other node the two
networks are alike (`alike_of_turned`), and at the element the first two targets are exchanged
(`turnedAt_of_turned`).
-/
namespace GridOutage.Network

open Outcome

/-! ## Steps -/

/-- The same step with the first two ends of its element exchanged. -/
inductive Step.Turned : Step → Step → Prop
  | equipment (e : Equipment) (a b : String) (levels : List String) :
      Turned (.equipment e (a :: b :: levels)) (.equipment e (b :: a :: levels))
  | hvdcLine (e : Equipment) (a b : String) : Turned (.hvdcLine e a b) (.hvdcLine e b a)

section

variable {step turned : Step} (h : step.Turned turned)

include h

theorem Step.Turned.symm : turned.Turned step := by
  cases h with
  | equipment e a b levels => exact .equipment e b a levels
  | hvdcLine e a b => exact .hvdcLine e b a

theorem Step.Turned.node_eq : turned.node = step.node := by
  cases h <;> rfl

theorem Step.Turned.fits {nodes : List Node} (hfits : step.Fits nodes) : turned.Fits nodes := by
  obtain ⟨hshaped, hfound⟩ := hfits
  cases h with
  | equipment e a b levels =>
    exact ⟨hshaped, fun id hid => hfound id ((List.Perm.swap a b levels).mem_iff.1 hid)⟩
  | hvdcLine e a b =>
    exact ⟨hshaped, fun id hid => hfound id ((List.Perm.swap a b []).mem_iff.1 hid)⟩

/-- An element that can be turned is none that other elements are connected to. -/
theorem Step.Turned.unwanted (hshaped : step.Shaped) (other : Step) :
    other.wants step.node = false := by
  have hstation : Node.isStation step.node = false := by
    cases h with
    | equipment e a b levels =>
      have hcount := hshaped.2
      have hkind : e.kind ≠ .converterStation := by
        intro hk
        rw [hk] at hcount
        simp [ElementKind.terminalCount] at hcount
      simpa [Step.node, Node.isStation] using hkind
    | hvdcLine e a b =>
      have hkind : e.kind = .equipment .hvdcLine := hshaped
      simp [Step.node, Node.isStation, hkind]
  cases other with
  | substation s => rfl
  | voltageLevel id v => cases h <;> rfl
  | equipment e levels => cases h <;> rfl
  | hvdcLine e a b => exact hstation

end

/-! ## Runs -/

/-- Steps with one node that fit the same nodes fail together, or leave the same nodes. -/
theorem Built.add_congr {net other : Network} {log log' : List Step} (h : net.Built log)
    (h' : other.Built log') (hnodes : other.nodes = net.nodes) {step turned : Step}
    (hnode : turned.node = step.node) (hfits : turned.Fits net.nodes ↔ step.Fits net.nodes) :
    (∃ fault fault', net.add step = .error fault ∧ other.add turned = .error fault') ∨
      ∃ after after', net.add step = .ok after ∧ other.add turned = .ok after' ∧
        after'.nodes = after.nodes := by
  have hsucceeds : (∃ after', other.add turned = .ok after') ↔ ∃ after, net.add step = .ok after := by
    rw [h.exists_add_iff, h'.exists_add_iff, hnodes, hnode, hfits]
  cases hadd : net.add step with
  | error fault =>
    cases hadd' : other.add turned with
    | error fault' => exact .inl ⟨fault, fault', rfl, rfl⟩
    | ok after' =>
      obtain ⟨after, hafter⟩ := hsucceeds.1 ⟨after', hadd'⟩
      rw [hadd] at hafter
      cases hafter
  | ok after =>
    obtain ⟨after', hadd'⟩ := hsucceeds.2 ⟨after, hadd⟩
    obtain ⟨-, links, -, rfl⟩ := add_eq_ok_iff.1 hadd
    obtain ⟨-, links', -, rfl⟩ := add_eq_ok_iff.1 hadd'
    exact .inr ⟨_, _, rfl, hadd', by simp only [extend, hnodes, hnode]⟩

/-- Which steps succeed is a matter of the nodes. -/
theorem logFrom_congr {net other : Network} {log log' : List Step} (h : net.Built log)
    (h' : other.Built log') (hnodes : other.nodes = net.nodes) (steps : List Step) :
    other.logFrom steps = net.logFrom steps := by
  induction steps generalizing net other log log' with
  | nil => rfl
  | cons step steps ih =>
    unfold logFrom
    rcases h.add_congr h' hnodes (rfl : step.node = step.node) Iff.rfl with
      ⟨fault, fault', hadd, hadd'⟩ | ⟨after, after', hadd, hadd', hafter⟩
    · simp only [hadd, hadd', ih h h' hnodes]
    · simp only [hadd, hadd', ih (h.add hadd) (h'.add hadd') hafter]

/-- A turned step fails where the other one does, and then neither leaves a trace. Otherwise the
logs are the same but for that step. -/
theorem run_turned {step turned : Step} (h : step.Turned turned) (before after : List Step) :
    run (before ++ turned :: after) = run (before ++ step :: after) ∨
      ∃ front rest, log (before ++ step :: after) = front ++ step :: rest ∧
        log (before ++ turned :: after) = front ++ turned :: rest := by
  have hbuilt := built_run before
  rcases hbuilt.add_congr hbuilt rfl h.node_eq ⟨h.symm.fits, h.fits⟩ with
    ⟨fault, fault', hadd, hadd'⟩ | ⟨next, next', hadd, hadd', hnodes⟩
  · have hrun (s : Step) : run (before ++ s :: after) =
        after.foldl attempt ((run before).attempt s) := by
      rw [run, List.foldl_append, List.foldl_cons, run]
    left
    rw [hrun, hrun, attempt_of_error hadd, attempt_of_error hadd']
  · have hlog {s : Step} {made : Network} (hs : (run before).add s = .ok made) :
        log (before ++ s :: after) = log before ++ s :: made.logFrom after := by
      change (before.foldl attempt empty).add s = .ok made at hs
      rw [log, logFrom_append, logFrom, hs]
      rfl
    refine .inr ⟨log before, next.logFrom after, hlog hadd, ?_⟩
    rw [hlog hadd', logFrom_congr (hbuilt.add hadd) (hbuilt.add hadd') hnodes]

/-! ## Edges -/

section

variable {net : Network} {log : List Step} (h : net.Built log) {i : Nat}

include h

theorem Built.outgoing_lt {link : Link × Nat} (hlink : link ∈ net.outgoing i) : link.2 < i := by
  obtain ⟨edge, hedge, rfl⟩ := List.mem_map.1 hlink
  obtain ⟨hmem, hsource⟩ := List.mem_filter.1 hedge
  exact eq_of_beq hsource ▸ (h.edges_back edge hmem).1

theorem Built.outgoing_of_length_le (hi : net.nodes.length ≤ i) : net.outgoing i = [] := by
  rw [outgoing, List.map_eq_nil_iff, List.filter_eq_nil_iff]
  intro edge hedge hsource
  have hback := h.edges_back edge hedge
  rw [beq_iff_eq] at hsource
  omega

theorem Built.targets_lt {link : Link} {j : Nat} (hj : j ∈ net.targets i link) : j < i := by
  rw [targets_eq] at hj
  obtain ⟨named, hnamed, rfl⟩ := List.mem_map.1 hj
  exact h.outgoing_lt (List.mem_filter.1 hnamed).1

theorem Built.level_lt {t : Terminal} (ht : t ∈ net.terminals i) : t.level < i := by
  obtain ⟨side, -, ht⟩ := List.mem_flatMap.1 ht
  obtain ⟨level, hlevel, rfl⟩ := List.mem_map.1 ht
  exact h.targets_lt hlevel

theorem Built.station_lt {side : Side} {j : Nat} (hj : net.station? i side = some j) : j < i :=
  h.targets_lt (List.mem_of_head? hj)

end

/-- What a step joins its node to is of the sort that it wants. -/
theorem Joins.wanted {net : Network} {step : Step} {links : List (Link × Nat)}
    (hj : net.Joins step links) {link : Link × Nat} (hlink : link ∈ links) :
    ∃ node, net.nodes[link.2]? = some node ∧ step.wants node = true := by
  cases hj with
  | substation s => cases hlink
  | voltageLevel hs hv =>
    obtain rfl := List.mem_singleton.1 hlink
    exact hs.2
  | equipment hk hn ht =>
    obtain ⟨-, htarget⟩ := List.of_mem_zip (a := link.1) (b := link.2) hlink
    exact forall_right_of_forall₂ ht (fun _ _ hf => hf.2) link.2 htarget
  | hvdcLine hk ha hb =>
    rcases List.mem_pair.1 hlink with rfl | rfl
    · exact ha.2
    · exact hb.2

/-- An identifier leads to one position. -/
theorem finds_unique (net : Network) (accept : Node → Bool) :
    Relator.RightUnique (net.Finds · accept) := by
  intro id i j hi hj
  exact Option.some.inj (hi.1.symm.trans hj.1)

theorem leads_unique (net : Network) : Relator.RightUnique net.Leads := by
  intro named link link' h h'
  exact Prod.ext (h.1.symm.trans h'.1) (Option.some.inj (h.2.symm.trans h'.2))

/-! ## The two networks -/

/-- At a position the first two ends of an element are exchanged. -/
inductive TurnedAt (net other : Network) (n : Nat) : Prop
  | terminals {e : Equipment} {i j : Nat} {third : List Terminal}
      (he : net.equipmentAt? n = some e) (hk : e.kind ≠ .equipment .hvdcLine)
      (hnet : net.terminals n = ⟨.one, i⟩ :: ⟨.two, j⟩ :: third)
      (hother : other.terminals n = ⟨.one, j⟩ :: ⟨.two, i⟩ :: third)
      (hthird : ∀ t ∈ third, t.side = .three) : TurnedAt net other n
  | stations {e : Equipment} {i j : Nat} (he : net.equipmentAt? n = some e)
      (hk : e.kind = .equipment .hvdcLine)
      (hnet : net.station? n .one = some i ∧ net.station? n .two = some j)
      (hother : other.station? n .one = some j ∧ other.station? n .two = some i) :
      TurnedAt net other n

section

variable {net other : Network} {front rest : List Step} {step turned : Step}
  (hturned : step.Turned turned) (hnet : net.Built (front ++ step :: rest))
  (hother : other.Built (front ++ turned :: rest))

include hturned hnet hother

theorem nodes_eq_of_turned : other.nodes = net.nodes := by
  simp [hnet.nodes_eq, hother.nodes_eq, hturned.node_eq]

theorem position?_eq_of_turned (id : String) : other.position? id = net.position? id := by
  ext i
  rw [hnet.position?_eq_some_iff, hother.position?_eq_some_iff,
    nodes_eq_of_turned hturned hnet hother]

theorem finds_iff_of_turned (id : String) (accept : Node → Bool) (i : Nat) :
    other.Finds id accept i ↔ net.Finds id accept i := by
  rw [Finds, Finds, position?_eq_of_turned hturned hnet hother, nodes_eq_of_turned hturned hnet hother]

theorem leads_eq_of_turned : other.Leads = net.Leads := by
  funext named link
  rw [Leads, Leads, position?_eq_of_turned hturned hnet hother]

theorem outgoing_eq_of_turned {i : Nat} (hi : i ≠ front.length) :
    other.outgoing i = net.outgoing i := by
  have hlog : (front ++ turned :: rest)[i]? = (front ++ step :: rest)[i]? := by
    rw [List.getElem?_append, List.getElem?_append]
    split
    · rfl
    · next hge =>
      obtain ⟨k, hk⟩ : ∃ k, i - front.length = k + 1 := ⟨i - front.length - 1, by omega⟩
      rw [hk, List.getElem?_cons_succ, List.getElem?_cons_succ]
  cases hs : (front ++ step :: rest)[i]? with
  | some s =>
    have hlinked := hother.linked (hlog.trans hs)
    rw [leads_eq_of_turned hturned hnet hother] at hlinked
    exact List.right_unique_forall₂' net.leads_unique hlinked (hnet.linked hs)
  | none =>
    have hlength : net.nodes.length ≤ i := by
      rw [hnet.nodes_eq, List.length_map]
      exact List.getElem?_eq_none_iff.1 hs
    rw [hnet.outgoing_of_length_le hlength, hother.outgoing_of_length_le
      (nodes_eq_of_turned hturned hnet hother ▸ hlength)]

theorem terminals_eq_of_turned {i : Nat} (hi : i ≠ front.length) :
    other.terminals i = net.terminals i := by
  simp only [terminals, targets_eq, outgoing_eq_of_turned hturned hnet hother hi]

/-- From any other node on the two networks are alike: no edge leads to the element. -/
theorem alike_of_turned : net.Alike other fun i j => i = j ∧ i ≠ front.length where
  node_eq i j hij := by
    obtain ⟨rfl, -⟩ := hij
    rw [nodes_eq_of_turned hturned hnet hother]
  outgoing i j hij := by
    obtain ⟨rfl, hi⟩ := hij
    rw [outgoing_eq_of_turned hturned hnet hother hi, List.forall₂_same]
    intro link hlink
    refine ⟨rfl, rfl, fun hself => ?_⟩
    have hstep : (front ++ step :: rest)[front.length]? = some step := by simp
    have hshaped := (hnet.exists_joins_iff.1 ⟨_, hnet.joined _ _ hstep⟩).shaped
    have hbound : i < net.nodes.length := by
      by_contra hge
      rw [hnet.outgoing_of_length_le (Nat.le_of_not_lt hge)] at hlink
      cases hlink
    obtain ⟨s, -, -, hjoins⟩ := hnet.step_at (List.getElem?_eq_getElem hbound)
    obtain ⟨node, hnode, hwanted⟩ := hjoins.wanted hlink
    rw [hself, hnet.nodes_eq, List.getElem?_map, hstep] at hnode
    obtain rfl := Option.some.inj hnode
    rw [hturned.unwanted hshaped s] at hwanted
    cases hwanted

theorem turnedAt_of_turned : net.TurnedAt other front.length := by
  have hstep : (front ++ step :: rest)[front.length]? = some step := by simp
  have hstep' : (front ++ turned :: rest)[front.length]? = some turned := by simp
  have hnode : net.nodes[front.length]? = some step.node := by
    rw [hnet.nodes_eq, List.getElem?_map, hstep, Option.map_some]
  have hlinks := hnet.joined _ _ hstep
  have hlinks' := hother.joined _ _ hstep'
  generalize hout : net.outgoing front.length = links at hlinks
  generalize hout' : other.outgoing front.length = links' at hlinks'
  have hunique := net.finds_unique
  cases hturned with
  | equipment e a b levels =>
    cases hlinks with
    | equipment hk hn ht =>
      cases hlinks' with
      | equipment hk' hn' ht' =>
        replace ht' := ht'.imp fun id i =>
          (finds_iff_of_turned (.equipment e a b levels) hnet hother id Node.isVoltageLevel i).1
        obtain _ | ⟨ha, _ | ⟨hb, hlevels⟩⟩ := ht
        obtain _ | ⟨hb', _ | ⟨ha', hlevels'⟩⟩ := ht'
        obtain rfl := hunique _ ha ha'
        obtain rfl := hunique _ hb hb'
        obtain rfl := List.right_unique_forall₂' (hunique _) hlevels hlevels'
        refine .terminals (equipmentAt?_eq_some_iff.2 hnode) hk (terminals_of_zip hout)
          (terminals_of_zip hout') fun t ht => ?_
        have hside := List.mem_map_of_mem (f := Terminal.side) ht
        rw [map_zipWith_left fun _ _ => rfl] at hside
        exact List.mem_singleton.1 (List.mem_of_mem_take hside)
  | hvdcLine e a b =>
    cases hlinks with
    | hvdcLine hk ha hb =>
      cases hlinks' with
      | hvdcLine hk' hb' ha' =>
        rw [finds_iff_of_turned (.hvdcLine e a b) hnet hother] at ha' hb'
        obtain rfl := hunique _ ha ha'
        obtain rfl := hunique _ hb hb'
        exact .stations (equipmentAt?_eq_some_iff.2 hnode) hk (station?_of_stations hout)
          (station?_of_stations hout')

end

end GridOutage.Network
