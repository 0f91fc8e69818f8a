import GridOutage.Proofs.Network.Acceptance
import GridOutage.Proofs.Network.Alike

/-!
# Documents in another order

The order of a document's parts decides at which positions its nodes end up, and nothing else.
`Reordered` documents have the same nodes with the same named links (`Reordered.layout_perm`), so
they are acceptable together, and the networks they make differ by a `Renumbering`: the node of an
identifier in one looks like the node of that identifier in the other.

HVDC lines are the last pass of every document. Moving them among the other equipment does not even
change the steps (`LinesMoved.plan_eq`).
-/
namespace GridOutage

open Outcome

namespace Network

/-- Positions of one identifier in two networks. -/
def SameName (net other : Network) (i j : Nat) : Prop :=
  ∃ id, net.position? id = some i ∧ other.position? id = some j

/-- Everything a network names, another one names too, and from there on the two look alike. -/
structure Renumbering (net other : Network) : Prop where
  alike : net.Alike other (net.SameName other)
  named : ∀ id i, net.position? id = some i → ∃ j, other.position? id = some j

/-- What is known of an identifier does not depend on where its node is. -/
theorem Renumbering.equipment?_eq {net other : Network} (h : net.Renumbering other)
    (h' : other.Renumbering net) (id : String) : net.equipment? id = other.equipment? id := by
  rw [equipment?, equipment?]
  cases hi : net.position? id with
  | some i =>
    obtain ⟨j, hj⟩ := h.named id i hi
    rw [hj]
    exact h.alike.equipmentAt?_eq ⟨id, hi, hj⟩
  | none =>
    cases hj : other.position? id with
    | none => rfl
    | some j =>
      obtain ⟨i, hi'⟩ := h'.named id j hj
      rw [hi] at hi'
      cases hi'

end Network

namespace NetworkDocument

open Network (Renumbering)

/-! ## Orders -/

/-- The same substation with its voltage levels in any order. -/
structure SameSubstation (s t : SubstationDocument) : Prop where
  id_eq : s.id = t.id
  name_eq : s.name = t.name
  country_eq : s.country = t.country
  levels : s.levels.Perm t.levels

/-- Documents that differ at most in the order of the substations, of the voltage levels inside each
of them, and of the equipment. -/
structure Reordered (d d' : NetworkDocument) : Prop where
  substations : ∃ between, List.Forall₂ SameSubstation d.substations between ∧
    between.Perm d'.substations
  equipment : d.equipment.Perm d'.equipment

/-- Documents that differ at most in where the HVDC lines stand among the other equipment. -/
structure LinesMoved (d d' : NetworkDocument) : Prop where
  substations : d.substations = d'.substations
  lines : d.equipment.filter EquipmentDocument.isHvdcLine =
    d'.equipment.filter EquipmentDocument.isHvdcLine
  others : d.equipment.filter (!·.isHvdcLine) = d'.equipment.filter (!·.isHvdcLine)

theorem LinesMoved.plan_eq {d d' : NetworkDocument} (h : LinesMoved d d') : d.plan = d'.plan := by
  rw [plan, plan, h.substations, h.lines, h.others]

/-! ## What does not depend on the order -/

theorem flatMap_perm_of_forall₂ {α β : Type} {R : α → α → Prop} {f : α → List β}
    (hf : ∀ a b, R a b → (f a).Perm (f b)) {xs ys : List α} (h : List.Forall₂ R xs ys) :
    (xs.flatMap f).Perm (ys.flatMap f) := by
  induction h with
  | nil => exact .nil
  | cons hab _ ih =>
    rw [List.flatMap_cons, List.flatMap_cons]
    exact (hf _ _ hab).append ih

section

variable {d d' : NetworkDocument} (h : Reordered d d')

include h

/-- Whatever is listed of a substation, with its voltage levels in their order, is listed of the
reordered document too. -/
theorem Reordered.flatMap_perm {β : Type} {f : SubstationDocument → List β}
    (hf : ∀ s t, SameSubstation s t → (f s).Perm (f t)) :
    (d.substations.flatMap f).Perm (d'.substations.flatMap f) := by
  obtain ⟨between, hbetween, hperm⟩ := h.substations
  exact (flatMap_perm_of_forall₂ hf hbetween).trans (hperm.flatMap_right f)

theorem Reordered.layout_perm : d.layout.Perm d'.layout := by
  rw [layout, layout]
  refine List.Perm.append (List.Perm.append (h.flatMap_perm ?_) ?_) ?_
  · intro s t hst
    rw [hst.id_eq, hst.name_eq, hst.country_eq]
    exact (hst.levels.map _).cons _
  · exact (h.equipment.filter _).map _
  · exact (h.equipment.filter _).map _

theorem Reordered.ids_perm : d.ids.Perm d'.ids :=
  (layout_ids_perm d).symm.trans (((h.layout_perm.map Prod.fst).map Node.id).trans
    (layout_ids_perm d'))

theorem Reordered.levels_perm :
    (d.substations.flatMap SubstationDocument.levels).Perm
      (d'.substations.flatMap SubstationDocument.levels) :=
  h.flatMap_perm fun _ _ hst => hst.levels

end

/-! ## Acceptance -/

theorem hasLevel_iff {d : NetworkDocument} {id : String} :
    d.HasLevel id ↔ ∃ v ∈ d.substations.flatMap SubstationDocument.levels, v.id = id := by
  simp only [HasLevel, List.mem_flatMap]
  constructor
  · intro hlevel
    obtain ⟨s, hs, v, hv, hid⟩ := hlevel
    exact ⟨v, ⟨s, hs, hv⟩, hid⟩
  · intro hlevel
    obtain ⟨v, ⟨s, hs, hv⟩, hid⟩ := hlevel
    exact ⟨s, hs, v, hv, hid⟩

theorem acceptable_of_perm {d d' : NetworkDocument} (hids : d.ids.Perm d'.ids)
    (hlevels : (d.substations.flatMap SubstationDocument.levels).Perm
      (d'.substations.flatMap SubstationDocument.levels))
    (hequipment : d.equipment.Perm d'.equipment) (hd : d.Acceptable) : d'.Acceptable where
  ids_given id hid := hd.ids_given id (hids.mem_iff.2 hid)
  ids_nodup := hids.nodup_iff.1 hd.ids_nodup
  voltages s hs v hv := by
    have hmem := hlevels.mem_iff.2 (List.mem_flatMap.2 ⟨s, hs, hv⟩)
    obtain ⟨t, ht, hvt⟩ := List.mem_flatMap.1 hmem
    exact hd.voltages t ht v hvt
  terminals e he hk := by
    obtain ⟨hcount, hfound⟩ := hd.terminals e (hequipment.mem_iff.2 he) hk
    refine ⟨hcount, fun id hid => ?_⟩
    obtain ⟨v, hv, hvid⟩ := hasLevel_iff.1 (hfound id hid)
    exact hasLevel_iff.2 ⟨v, hlevels.mem_iff.1 hv, hvid⟩
  stations e he hk := by
    obtain ⟨hcount, hfound⟩ := hd.stations e (hequipment.mem_iff.2 he) hk
    refine ⟨hcount, fun id hid => ?_⟩
    obtain ⟨station, hs, hkind⟩ := hfound id hid
    exact ⟨station, hequipment.mem_iff.1 hs, hkind⟩

theorem Reordered.acceptable_iff {d d' : NetworkDocument} (h : Reordered d d') :
    d.Acceptable ↔ d'.Acceptable :=
  ⟨acceptable_of_perm h.ids_perm h.levels_perm h.equipment,
    acceptable_of_perm h.ids_perm.symm h.levels_perm.symm h.equipment.symm⟩

/-! ## The two networks -/

/-- The node of an identifier is laid out by some entry of the document. -/
theorem LaidOut.entry_at {d : NetworkDocument} {net : Network} (h : d.LaidOut net) {id : String}
    {i : Nat} (hi : net.position? id = some i) :
    ∃ node links, d.layout[i]? = some (node, links) ∧ net.nodes[i]? = some node ∧ node.id = id := by
  obtain ⟨node, hnode, hid⟩ := (h.position?_iff id i).1 hi
  have hentry := hnode
  rw [h.nodes_eq, List.getElem?_map] at hentry
  obtain ⟨⟨_, links⟩, hlayout, rfl⟩ := Option.map_eq_some_iff.1 hentry
  exact ⟨_, links, hlayout, hnode, hid⟩

/-- What two lists pair with the members of a third, they pair with each other. -/
theorem forall₂_of_common {α β γ : Type} {R : α → β → Prop} {S : α → γ → Prop} {T : β → γ → Prop}
    (hRS : ∀ a b c, R a b → S a c → T b c) {as : List α} {bs : List β} {cs : List γ}
    (hb : List.Forall₂ R as bs) (hc : List.Forall₂ S as cs) : List.Forall₂ T bs cs := by
  induction hb generalizing cs with
  | nil =>
    obtain rfl := List.forall₂_nil_left_iff.1 hc
    exact .nil
  | cons hab _ ih =>
    obtain ⟨c, cs', hac, htail, rfl⟩ := List.forall₂_cons_left_iff.1 hc
    exact .cons (hRS _ _ _ hab hac) (ih htail)

/-- An entry of one document is somewhere in the other, with its node there too. -/
theorem LaidOut.exists_entry {d d' : NetworkDocument} {other : Network} (hd' : d'.LaidOut other)
    (hperm : d.layout.Perm d'.layout) {i : Nat} {node : Node} {links : List (Link × String)}
    (hi : d.layout[i]? = some (node, links)) :
    ∃ j, d'.layout[j]? = some (node, links) ∧ other.nodes[j]? = some node ∧
      other.position? node.id = some j := by
  obtain ⟨j, hj⟩ := List.mem_iff_getElem?.1 (hperm.mem_iff.1 (List.mem_of_getElem? hi))
  have hnode : other.nodes[j]? = some node := by
    rw [hd'.nodes_eq, List.getElem?_map, hj, Option.map_some]
  exact ⟨j, hj, hnode, (hd'.position?_iff _ _).2 ⟨node, hnode, rfl⟩⟩

theorem LaidOut.renumbering {d d' : NetworkDocument} {net other : Network} (hd : d.LaidOut net)
    (hd' : d'.LaidOut other) (hperm : d.layout.Perm d'.layout) : net.Renumbering other where
  named id i hi := by
    obtain ⟨node, links, hentry, -, rfl⟩ := hd.entry_at hi
    obtain ⟨j, -, -, hj⟩ := hd'.exists_entry hperm hentry
    exact ⟨j, hj⟩
  alike := by
    -- The entry of an identifier is the same in both documents.
    have common : ∀ i j, net.SameName other i j → ∃ node links,
        (d.layout[i]? = some (node, links) ∧ net.nodes[i]? = some node) ∧
          d'.layout[j]? = some (node, links) ∧ other.nodes[j]? = some node := by
      intro i j hij
      obtain ⟨id, hi, hj⟩ := hij
      obtain ⟨node, links, hentry, hnode, rfl⟩ := hd.entry_at hi
      obtain ⟨j', hentry', hnode', hj'⟩ := hd'.exists_entry hperm hentry
      obtain rfl : j = j' := by rw [hj] at hj'; exact Option.some.inj hj'
      exact ⟨node, links, ⟨hentry, hnode⟩, hentry', hnode'⟩
    refine ⟨fun i j hij => ?_, fun i j hij => ?_⟩
    · obtain ⟨node, links, ⟨-, hnode⟩, -, hnode'⟩ := common i j hij
      rw [hnode, hnode']
    · obtain ⟨node, links, ⟨hentry, -⟩, hentry', -⟩ := common i j hij
      refine forall₂_of_common ?_ (hd.linked i node links hentry)
        (hd'.linked j node links hentry')
      intro named a b ha hb
      exact ⟨ha.1.symm.trans hb.1, named.2, ha.2, hb.2⟩

end NetworkDocument

end GridOutage
