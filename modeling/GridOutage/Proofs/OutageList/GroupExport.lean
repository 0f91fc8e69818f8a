import GridOutage.Proofs.Contingency
import GridOutage.Proofs.Filter.Selection
import GridOutage.Proofs.Network.Lookup
import GridOutage.Proofs.OutageList.Service
import Mathlib.Data.Set.Card

/-!
# Exporting groups of identifiers

Each group becomes one contingency, and each of its identifiers ends in one of two places: among
the elements if it names equipment of the network, among what is missing if it does not. An
identifier of equipment that carries topology only spoils the whole export.

What is missing is computed from the elements that were found. That these are what the identifiers
name is due to the network, where looking an identifier up gives equipment of that very identifier
(`Network.Built.equipment?_eq_some_iff`).

* `GroupContingency`: what one group becomes.
* `GroupsExport`: what all groups of a list become, or which error they give.
-/
namespace GridOutage

open Outcome

/-- The identifier is that of equipment that no contingency can trip. -/
def Network.Untrippable (net : Network) (id : String) : Prop :=
  ∃ e, net.Names id e ∧ e.kind.TopologyOnly

/-- A set of texts has as many members as there are texts of its sort. -/
theorem TextSet.size_eq_ncard {s : TextSet} {p : String → Prop} (h : ∀ x, x ∈ s.members ↔ p x) :
    s.size = {x | p x}.ncard := by
  have hset : {x | p x} = (s.members.toFinset : Set String) := by
    ext x
    simp [h]
  rw [hset, Set.ncard_coe_finset, List.toFinset_card_of_nodup s.members_nodup, size]

namespace OutageList

/-! ## One group -/

/-- The outages of the identifiers that name equipment, in the order of the identifiers. -/
inductive Tripped (net : Network) : List String → List Outage → Prop
  | nil : Tripped net [] []
  | named {id : String} {e : Equipment} {type : EquipmentType} {ids : List String}
      {outages : List Outage} (he : net.Names id e) (hk : e.kind = .equipment type)
      (h : Tripped net ids outages) : Tripped net (id :: ids) (⟨type, id⟩ :: outages)
  | unknown {id : String} {ids : List String} {outages : List Outage} (hid : net.Unknown id)
      (h : Tripped net ids outages) : Tripped net (id :: ids) outages

/-- What a group of identifiers becomes. -/
structure GroupContingency (net : Network) (g : IdentifierGroup) (c : Contingency) : Prop where
  id_eq : c.id = some g.id
  elements : Tripped net g.identifiers c.elements
  missing : ∀ id, id ∈ c.missing.members ↔ id ∈ g.identifiers ∧ net.Unknown id
  /-- Every identifier ends in exactly one of the two places. -/
  parted : ∀ id ∈ g.identifiers,
    (id ∈ c.elements.map Outage.id ∨ id ∈ c.missing.members) ∧
      ¬ (id ∈ c.elements.map Outage.id ∧ id ∈ c.missing.members)

theorem Tripped.mem_ids_iff {net : Network} {ids : List String} {outages : List Outage}
    (h : Tripped net ids outages) {id : String} :
    id ∈ outages.map Outage.id ↔ id ∈ ids ∧ ¬ net.Unknown id := by
  induction h with
  | nil => simp
  | @named id' e type ids outages he hk _ ih =>
    have hknown : ¬ net.Unknown id' := fun hu => hu e he
    simp only [List.map_cons, List.mem_cons, ih]
    by_cases hid : id = id'
    · simp [hid, hknown]
    · simp [hid]
  | @unknown id' ids outages hu _ ih =>
    simp only [List.mem_cons, ih]
    by_cases hid : id = id'
    · simp [hid, hu]
    · simp [hid]

section

variable {net : Network} {log : List Network.Step} (h : net.Built log)

include h

theorem resolve_eq_some_iff {id : String} {a : Attributes} :
    resolve net id = some a ↔ ∃ e, net.Names id e ∧ e.attributes = a := by
  simp only [resolve, Option.map_eq_some_iff, h.equipment?_eq_some_iff]

theorem resolve_eq_none_iff {id : String} : resolve net id = none ↔ net.Unknown id := by
  rw [resolve, Option.map_eq_none_iff, h.equipment?_eq_none_iff]

theorem untrippable_iff {id : String} :
    (∃ a, resolve net id = some a ∧ a.kind.TopologyOnly) ↔ net.Untrippable id := by
  simp only [resolve_eq_some_iff h, Network.Untrippable]
  constructor
  · intro hx
    obtain ⟨a, ⟨e, he, rfl⟩, hk⟩ := hx
    exact ⟨e, he, hk⟩
  · intro hx
    obtain ⟨e, he, hk⟩ := hx
    exact ⟨e.attributes, ⟨e, he, rfl⟩, hk⟩

theorem tripped_of_resolved {ids : List String} {outages : List Outage}
    (ho : List.Forall₂ Outage.Of (ids.filterMap (resolve net)) outages) :
    Tripped net ids outages := by
  induction ids generalizing outages with
  | nil =>
    obtain rfl := List.forall₂_nil_left_iff.1 ho
    exact .nil
  | cons id ids ih =>
    cases hr : resolve net id with
    | none =>
      rw [List.filterMap_cons_none hr] at ho
      exact .unknown ((resolve_eq_none_iff h).1 hr) (ih ho)
    | some a =>
      rw [List.filterMap_cons_some hr] at ho
      obtain ⟨⟨type, oid⟩, rest, hof, hrest, rfl⟩ := List.forall₂_cons_left_iff.1 ho
      obtain ⟨e, he, rfl⟩ := (resolve_eq_some_iff h).1 hr
      -- The outage bears the identifier that was asked for, since the equipment does.
      obtain rfl : oid = id := hof.2.trans he.2
      exact .named he hof.1 (ih hrest)

/-- An identifier is missing among the elements that were found when it is unknown. -/
theorem not_found_iff {ids : List String} {id : String} (hid : id ∈ ids) :
    (!(ids.filterMap (resolve net)).any (·.id == id)) = true ↔ net.Unknown id := by
  simp only [Bool.not_eq_true', List.any_eq_false, List.mem_filterMap, beq_iff_eq]
  constructor
  · intro hnone
    rw [← resolve_eq_none_iff h, Option.eq_none_iff_forall_ne_some]
    intro a ha
    obtain ⟨e, he, rfl⟩ := (resolve_eq_some_iff h).1 ha
    exact hnone _ ⟨id, hid, ha⟩ he.2
  · intro hu a ha hid
    obtain ⟨id', -, ha⟩ := ha
    obtain ⟨e, he, rfl⟩ := (resolve_eq_some_iff h).1 ha
    exact hu e ⟨he.1, hid⟩

theorem groupContingency_of_assemble {g : IdentifierGroup} {c : Contingency}
    (hc : Contingency.assemble (some g.id) (g.identifiers.filterMap (resolve net)) g.identifiers =
      .ok c) : GroupContingency net g c := by
  obtain ⟨hid, helements, hmissing⟩ := Contingency.assemble_eq_ok_iff.1 hc
  have htripped := tripped_of_resolved h helements
  have hunknown : ∀ id, id ∈ c.missing.members ↔ id ∈ g.identifiers ∧ net.Unknown id := by
    intro id
    rw [hmissing, TextSet.mem_ofList, List.mem_filter]
    exact and_congr_right fun hmem => not_found_iff h hmem
  refine ⟨hid, htripped, hunknown, fun id hmem => ?_⟩
  rw [htripped.mem_ids_iff, hunknown]
  by_cases hu : net.Unknown id <;> simp [hmem, hu]

/-- A group fails when one of its identifiers is that of equipment that carries topology only. -/
theorem exists_assemble_error_iff {g : IdentifierGroup} :
    (∃ e, Contingency.assemble (some g.id) (g.identifiers.filterMap (resolve net)) g.identifiers =
        .error e) ↔ ∃ id ∈ g.identifiers, net.Untrippable id := by
  simp only [Contingency.assemble_eq_error_iff, ← untrippable_iff h]
  rw [exists_comm]
  simp only [exists_and_left, exists_eq, and_true, exists_first_iff, List.mem_filterMap]
  constructor
  · intro hx
    obtain ⟨a, ⟨id, hid, ha⟩, hk⟩ := hx
    exact ⟨id, hid, a, ha, hk⟩
  · intro hx
    obtain ⟨id, hid, a, ha, hk⟩ := hx
    exact ⟨a, ⟨id, hid, ha⟩, hk⟩

/-- The error of a group is that of its first such identifier. -/
theorem first_of_assemble_error {g : IdentifierGroup} {e : Error}
    (he : Contingency.assemble (some g.id) (g.identifiers.filterMap (resolve net)) g.identifiers =
      .error e) :
    ∃ id element, First net.Untrippable g.identifiers id ∧ net.Names id element ∧
      e = .notTrippable id element.kind := by
  obtain ⟨a, ha, rfl⟩ := Contingency.assemble_eq_error_iff.1 he
  obtain ⟨id, hfirst, hr⟩ := ha.of_filterMap
  simp only [untrippable_iff h] at hfirst
  obtain ⟨element, hnames, rfl⟩ := (resolve_eq_some_iff h).1 hr
  exact ⟨id, element, hfirst, hnames, congrArg (Error.notTrippable · element.kind) hnames.2⟩

end

/-! ## All groups -/

/-- What comes of a list of groups: a contingency for each of them in their order, unless one of the
identifiers cannot be tripped. The error then names the first such identifier of all groups. -/
structure GroupsExport (net : Network) (l : OutageList) (groups : List IdentifierGroup)
    (r : Except Error Exported) : Prop where
  error_iff : (∃ e, r = .error e) ↔ ∃ g ∈ groups, ∃ id ∈ g.identifiers, net.Untrippable id
  error : ∀ e, r = .error e → e.kind = .configuration ∧ ∃ id element,
    First net.Untrippable (groups.flatMap IdentifierGroup.identifiers) id ∧ net.Names id element ∧
      e = .notTrippable id element.kind
  ok : ∀ e, r = .ok e → e.id = l.id ∧ e.name = l.name ∧
    List.Forall₂ (GroupContingency net) groups e.contingencies ∧
    e.count = ⟨groups.length,
      (groups.map fun g => {id | id ∈ g.identifiers ∧ net.Unknown id}.ncard).sum⟩

theorem count_eq (e : Exported) :
    e.count = ⟨e.contingencies.length, (e.contingencies.map fun c => c.missing.size).sum⟩ := by
  rw [Exported.count, List.sum, List.foldr_map]

theorem sizes_of_groups {net : Network} {groups : List IdentifierGroup} {cs : List Contingency}
    (h : List.Forall₂ (GroupContingency net) groups cs) :
    cs.map (fun c => c.missing.size) =
      groups.map fun g => {id | id ∈ g.identifiers ∧ net.Unknown id}.ncard := by
  induction h with
  | nil => rfl
  | cons hc _ ih => rw [List.map_cons, List.map_cons, ih, TextSet.size_eq_ncard hc.missing]

theorem groupsExport_perGroup {net : Network} {log : List Network.Step} (h : net.Built log)
    (l : OutageList) (groups : List IdentifierGroup) :
    GroupsExport net l groups
      ((Contingency.perGroup groups (resolve net)).map fun cs => ⟨l.id, l.name, cs⟩) := by
  have herror : (∃ e, Contingency.perGroup groups (resolve net) = .error e) ↔
      ∃ g ∈ groups, ∃ id ∈ g.identifiers, net.Untrippable id := by
    simp only [Contingency.perGroup, exists_mapM_error_iff, exists_assemble_error_iff h]
  cases hr : Contingency.perGroup groups (resolve net) with
  | error e =>
    refine ⟨?_, ?_, ?_⟩
    · rw [← herror, hr]
      exact iff_of_true ⟨_, rfl⟩ ⟨_, rfl⟩
    · intro e' he
      obtain rfl : e = e' := Except.error.inj he
      obtain ⟨g, hg, hge⟩ := mapM_eq_error_iff.1 hr
      obtain ⟨id, element, hid, hnames, rfl⟩ := first_of_assemble_error h hge
      simp only [exists_assemble_error_iff h] at hg
      exact ⟨rfl, id, element, hg.flatMap hid, hnames, rfl⟩
    · intro e' he
      cases he
  | ok cs =>
    have hcs := (mapM_eq_ok_iff.1 hr).imp fun _ _ => groupContingency_of_assemble h
    refine ⟨?_, ?_, ?_⟩
    · rw [← herror, hr]
      simp [Except.map]
    · intro e he
      cases he
    · intro e he
      obtain rfl := Except.ok.inj he
      refine ⟨rfl, rfl, hcs, ?_⟩
      rw [count_eq, sizes_of_groups hcs, hcs.length_eq]

/-- A list of identifiers is exported group by group, and counted as it is exported. -/
theorem export_per_group [PatternEngine] {s : Store} {id : Uuid} {l : OutageList}
    {groups : List IdentifierGroup} (hl : s.get? id = some l) (hc : l.content = .identifiers groups)
    (steps : List Network.Step) (source : Option (FilterSource Id)) :
    ∃ r, (export? (Network.run steps) source id).run s = (r, s) ∧
      (count (Network.run steps) source id).run s = (r.map Exported.count, s) ∧
      GroupsExport (Network.run steps) l groups r := by
  have hrun := run_export?_of_local hl (Network.run steps) (by simp [hc]) source
  rw [hc, localContingencies] at hrun
  refine ⟨_, hrun, ?_, groupsExport_perGroup (Network.built_run steps) l groups⟩
  rw [run_count, hrun]

/-- A line asked for twice beside a substation, and a group of which nothing is known. -/
def crossing : OutageList :=
  { id := .ofNat 3, name := "crossing", modified := default,
    content := .identifiers [⟨"N-2", ["L12", "FR", "L12"]⟩, ⟨"none", ["L13"]⟩] }

theorem export_per_group_crossing :
    ∃ r, (export? (Network.run Filter.border) none (.ofNat 3)).run (.ofLists [crossing]) =
        (r, .ofLists [crossing]) ∧
      GroupsExport (Network.run Filter.border) crossing
        [⟨"N-2", ["L12", "FR", "L12"]⟩, ⟨"none", ["L13"]⟩] r := by
  have hcrossing : (Store.ofLists [crossing]).get? (.ofNat 3) = some crossing := by decide
  obtain ⟨r, hrun, -, hgroups⟩ := export_per_group hcrossing rfl Filter.border none
  exact ⟨r, hrun, hgroups⟩

end OutageList

end GridOutage
