import GridOutage.Proofs.Network.Invariant

/-!
# Looking equipment up

Equipment is found by its identifier, or listed with its positions. `Names` is what the first
comes to on a network that attempts have built, said of the nodes alone; the list of all equipment
has every element once, by increasing position (`mem_equipments_iff`, `equipments_increasing`).
-/
namespace GridOutage.Network

/-- Equipment of the network has the identifier. -/
def Names (net : Network) (id : String) (e : Equipment) : Prop :=
  .equipment e ∈ net.nodes ∧ e.id = id

/-- No equipment of the network has the identifier, though a substation or a voltage level may. -/
def Unknown (net : Network) (id : String) : Prop := ∀ e, ¬ net.Names id e

theorem Built.equipment?_eq_some_iff {net : Network} {log : List Step} (h : net.Built log)
    {id : String} {e : Equipment} : net.equipment? id = some e ↔ net.Names id e := by
  unfold equipment? Names
  rw [Option.bind_eq_some_iff]
  constructor
  · intro hi
    obtain ⟨i, hp, he⟩ := hi
    obtain ⟨node, hn, rfl⟩ := h.position?_eq_some_iff.1 hp
    rw [equipmentAt?_eq_some_iff, hn] at he
    obtain rfl := Option.some.inj he
    exact ⟨List.mem_of_getElem? hn, rfl⟩
  · intro hn
    obtain ⟨hm, rfl⟩ := hn
    obtain ⟨i, hi⟩ := List.mem_iff_getElem?.1 hm
    exact ⟨i, h.position?_eq_some_iff.2 ⟨_, hi, rfl⟩, equipmentAt?_eq_some_iff.2 hi⟩

theorem Built.equipment?_eq_none_iff {net : Network} {log : List Step} (h : net.Built log)
    {id : String} : net.equipment? id = none ↔ net.Unknown id := by
  simp only [Option.eq_none_iff_forall_ne_some, ne_eq, h.equipment?_eq_some_iff, Unknown]

/-- Two positions with equipment of one identifier are one position. -/
theorem Built.eq_of_id_eq {net : Network} {log : List Step} (h : net.Built log) {i j : Nat}
    {a b : Equipment} (ha : net.equipmentAt? i = some a) (hb : net.equipmentAt? j = some b)
    (hid : a.id = b.id) : i = j := by
  have hi := h.position?_eq_some_iff.2 ⟨_, equipmentAt?_eq_some_iff.1 ha, rfl⟩
  have hj := h.position?_eq_some_iff.2 ⟨_, equipmentAt?_eq_some_iff.1 hb, rfl⟩
  simp only [Node.id] at hi hj
  rw [hid, hj] at hi
  exact (Option.some.inj hi).symm

theorem mem_equipments_iff {net : Network} {i : Nat} {e : Equipment} :
    (i, e) ∈ net.equipments ↔ net.equipmentAt? i = some e := by
  unfold equipments equipmentAt?
  simp only [List.mem_filterMap, Option.map_eq_some_iff, Option.bind_eq_some_iff, Prod.mk.injEq]
  constructor
  · intro h
    obtain ⟨⟨node, j⟩, hm, e', he, rfl, rfl⟩ := h
    exact ⟨node, List.mem_zipIdx_iff_getElem?.1 hm, he⟩
  · intro h
    obtain ⟨node, hn, he⟩ := h
    exact ⟨(node, i), List.mem_zipIdx_iff_getElem?.2 hn, e, he, rfl, rfl⟩

/-- Where equipment is listed there is a node. -/
theorem lt_of_mem_equipments {net : Network} {p : Nat × Equipment} (hp : p ∈ net.equipments) :
    p.1 < net.nodes.length :=
  (List.getElem?_eq_some_iff.1 (equipmentAt?_eq_some_iff.1 (mem_equipments_iff.1 hp))).1

theorem equipments_increasing (net : Network) : net.equipments.Pairwise fun a b => a.1 < b.1 := by
  have hpositions : net.nodes.zipIdx.Pairwise fun a b => a.2 < b.2 := by
    rw [← List.pairwise_map (f := Prod.snd) (R := (· < ·)), List.zipIdx_map_snd]
    exact List.pairwise_lt_range'
  unfold equipments
  refine hpositions.filterMap _ fun a b hab a' ha b' hb => ?_
  obtain ⟨e, -, rfl⟩ := Option.map_eq_some_iff.1 ha
  obtain ⟨e', -, rfl⟩ := Option.map_eq_some_iff.1 hb
  exact hab

theorem Built.equipment_ids_nodup {net : Network} {log : List Step} (h : net.Built log) :
    (net.equipments.map fun p => p.2.id).Nodup := by
  rw [List.Nodup, List.pairwise_map]
  refine net.equipments_increasing.imp_of_mem fun {a b} ha hb hlt hid => ?_
  have := h.eq_of_id_eq (mem_equipments_iff.1 ha) (mem_equipments_iff.1 hb) hid
  omega

end GridOutage.Network
