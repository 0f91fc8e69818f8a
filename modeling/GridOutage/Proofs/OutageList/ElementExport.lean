import GridOutage.Proofs.Contingency
import GridOutage.Proofs.Filter.Selection
import GridOutage.Proofs.Network.Lookup
import GridOutage.Proofs.OutageList.Service
import Mathlib.Data.Option.Basic

/-!
# Exporting element by element

Two contents stand for one contingency for each element: a form, whose elements are those of a
network that its description selects, and references to filters, whose elements a filter service
answers with. `FormExport` and `AnswerExport` say what an export of either is in terms of the
selected elements and of the answer.

A form never meets an element that cannot be tripped, for a description selects elements of its own
type only, and it never names a contingency twice, for the identifiers of a network are distinct.
-/
namespace GridOutage

open Outcome
open GridOutage.Filter (FilterSpec CompiledFilter)

/-! ## The elements of a filter -/

section

variable [PatternEngine]

/-- The matching elements are those at the accepted positions, by increasing position. -/
theorem Filter.CompiledFilter.exists_positions (f : CompiledFilter) (net : Network) :
    ∃ positions : List Nat, positions.Pairwise (· < ·) ∧
      (∀ i, i ∈ positions ↔ f.accepts net i = true) ∧
      List.Forall₂ (fun i e => net.equipmentAt? i = some e) positions (f.matching net) := by
  let accepted := (net.ofKind (.equipment f.type)).filter fun p => f.accepts net p.1
  have hmem : ∀ {i : Nat} {e : Equipment}, (i, e) ∈ accepted ↔
      net.equipmentAt? i = some e ∧ e.kind = .equipment f.type ∧ f.accepts net i = true := by
    intro i e
    simp only [accepted, Network.ofKind, List.mem_filter, Network.mem_equipments_iff, beq_iff_eq,
      and_assoc]
  have hmatching : f.matching net = accepted.map Prod.snd := rfl
  refine ⟨accepted.map Prod.fst, ?_, ?_, ?_⟩
  · rw [List.pairwise_map]
    exact (net.equipments_increasing.filter _).filter _
  · intro i
    constructor
    · intro hi
      obtain ⟨⟨j, e⟩, hj, rfl⟩ := List.mem_map.1 hi
      exact (hmem.1 hj).2.2
    · intro hi
      obtain ⟨e, he, hk, -⟩ := CompiledFilter.accepts_iff.1 hi
      exact List.mem_map.2 ⟨(i, e), hmem.2 ⟨he, hk, hi⟩, rfl⟩
  · rw [hmatching, List.forall₂_map_left_iff, List.forall₂_map_right_iff, List.forall₂_same]
    exact fun p hp => (hmem.1 hp).1

theorem Filter.CompiledFilter.matching_ids_nodup (f : CompiledFilter) {net : Network}
    {log : List Network.Step} (h : net.Built log) : ((f.matching net).map Equipment.id).Nodup := by
  rw [CompiledFilter.matching, List.map_map]
  exact h.equipment_ids_nodup.sublist ((List.filter_sublist.trans List.filter_sublist).map _)

end

namespace OutageList

/-! ## Forms -/

/-- One contingency for each element that a description selects, in the order of the network: it
trips that element alone and bears its identifier. No two bear the same one. -/
structure FormExport (spec : FilterSpec) (net : Network) (cs : List Contingency) : Prop where
  selected : ∃ positions : List Nat, positions.Pairwise (· < ·) ∧
    (∀ i, i ∈ positions ↔ spec.Selects net i) ∧
    List.Forall₂ (fun i c => ∃ e, net.equipmentAt? i = some e ∧
      c = { id := some e.id, elements := [⟨spec.type, e.id⟩], missing := .empty }) positions cs
  ids_nodup : (cs.map Contingency.id).Nodup

theorem formExport_of_matching [PatternEngine] {spec : FilterSpec} (hfit : spec.PatternsFit)
    {net : Network} {log : List Network.Step} (h : net.Built log) :
    ∃ cs, Contingency.perElement (spec.compiled.matchingAttributes net) = .ok cs ∧
      FormExport spec net cs := by
  obtain ⟨positions, hincreasing, haccepts, hmatching⟩ := spec.compiled.exists_positions net
  let tripped (e : Equipment) : Contingency :=
    { id := some e.id, elements := [⟨spec.type, e.id⟩], missing := .empty }
  have hselected : List.Forall₂ (fun i c => ∃ e, net.equipmentAt? i = some e ∧ c = tripped e)
      positions ((spec.compiled.matching net).map tripped) := by
    rw [List.forall₂_map_right_iff]
    exact hmatching.imp fun i e he => ⟨e, he, rfl⟩
  refine ⟨(spec.compiled.matching net).map tripped, ?_, ⟨positions, hincreasing, ?_, hselected⟩, ?_⟩
  · -- Every matching element has the type of the description, so it can be tripped.
    rw [Contingency.perElement_eq_ok_iff, CompiledFilter.matchingAttributes,
      List.forall₂_map_left_iff, List.forall₂_map_right_iff, List.forall₂_same]
    intro e he
    obtain ⟨i, hi, hie⟩ : ∃ i ∈ positions, net.equipmentAt? i = some e := by
      obtain ⟨k, hk⟩ := List.mem_iff_get.1 he
      have hlen := hmatching.length_eq
      refine ⟨positions.get ⟨k, by omega⟩, List.get_mem _ _, ?_⟩
      rw [← hk]
      exact hmatching.get _ _
    obtain ⟨e', he', hkind, -⟩ := CompiledFilter.accepts_iff.1 ((haccepts i).1 hi)
    obtain rfl : e = e' := by rw [hie] at he'; exact Option.some.inj he'
    exact ⟨⟨spec.type, e.id⟩, ⟨hkind, rfl⟩, rfl⟩
  · intro i
    rw [haccepts, Filter.accepts_iff_selects hfit h]
  · rw [List.map_map]
    have hids := (spec.compiled.matching_ids_nodup h).map (Option.some_injective String)
    rwa [List.map_map] at hids

theorem count_of_nothing_missing {e : Exported} (h : ∀ c ∈ e.contingencies, c.missing = .empty) :
    e.count = ⟨e.contingencies.length, 0⟩ := by
  have hmissing : ∀ cs : List Contingency, (∀ c ∈ cs, c.missing = .empty) →
      cs.foldr (fun c n => c.missing.size + n) 0 = 0 := by
    intro cs hcs
    induction cs with
    | nil => rfl
    | cons c cs ih =>
      obtain ⟨hc, hcs⟩ := List.forall_mem_cons.1 hcs
      rw [List.foldr_cons, ih hcs, hc]
      rfl
  rw [Exported.count, hmissing _ h]

/-! ## Answers of a filter service -/

/-- What comes of a list whose filters the service answers with some elements: one contingency for
each of them in the order of the answer, unless some element cannot be tripped. The error then
names the first such element. -/
structure AnswerExport (l : OutageList) (answer : List Attributes) (r : Except Error Exported) :
    Prop where
  ok_iff : (∃ e, r = .ok e) ↔ ∀ a ∈ answer, ¬ a.kind.TopologyOnly
  ok : ∀ e, r = .ok e → e.id = l.id ∧ e.name = l.name ∧
    List.Forall₂ (fun a c => ∃ type, a.kind = .equipment type ∧
      c = { id := some a.id, elements := [⟨type, a.id⟩], missing := .empty }) answer e.contingencies
  error : ∀ e, r = .error e → e.kind = .configuration ∧
    ∃ a, First (fun a => a.kind.TopologyOnly) answer a ∧ e = .notTrippable a.id a.kind

theorem answerExport_perElement (l : OutageList) (answer : List Attributes) :
    AnswerExport l answer ((Contingency.perElement answer).map fun cs => ⟨l.id, l.name, cs⟩) := by
  cases hr : Contingency.perElement answer with
  | error e =>
    obtain ⟨a, ha, rfl⟩ := Contingency.perElement_eq_error_iff.1 hr
    refine ⟨?_, ?_, ?_⟩
    · simp only [Except.map, reduceCtorEq, exists_false, false_iff]
      exact fun h => h a ha.holds.1 ha.holds.2
    · intro e he
      cases he
    · intro e he
      obtain rfl := Except.error.inj he
      exact ⟨rfl, a, ha, rfl⟩
  | ok cs =>
    have hcs := Contingency.perElement_eq_ok_iff.1 hr
    refine ⟨?_, ?_, ?_⟩
    · refine iff_of_true ⟨_, rfl⟩ fun a ha hkind => ?_
      obtain ⟨b, hb⟩ :=
        (exists_first_iff (p := fun a : Attributes => a.kind.TopologyOnly)).2 ⟨a, ha, hkind⟩
      have := Contingency.perElement_eq_error_iff.2 ⟨b, hb, rfl⟩
      rw [hr] at this
      cases this
    · intro e he
      obtain rfl := Except.ok.inj he
      refine ⟨rfl, rfl, hcs.imp fun a c hc => ?_⟩
      obtain ⟨⟨type, id⟩, ⟨hkind, rfl⟩, rfl⟩ := hc
      exact ⟨type, hkind, rfl⟩
    · intro e he
      cases he

/-! ## Exports -/

/-- A form is always exported, and its count is that of the elements that it selects. Of references
to filters the answer decides, and without a service to answer them there is no export. -/
theorem export_per_element [PatternEngine] {s : Store} {id : Uuid} {l : OutageList}
    (hl : s.get? id = some l) :
    (∀ spec, l.content = .form spec → spec.Accepted → spec.PatternsFit →
      ∀ (steps : List Network.Step) (source : Option (FilterSource Id)),
        ∃ cs, FormExport spec (Network.run steps) cs ∧
          (export? (Network.run steps) source id).run s = (.ok ⟨l.id, l.name, cs⟩, s) ∧
          (count (Network.run steps) source id).run s = (.ok ⟨cs.length, 0⟩, s)) ∧
    ∀ ids, l.content = .filters ids → ∀ net : Network,
      (∀ (ask : FilterSource Id) (answer : List Attributes), (ask ids).run = .ok answer →
        ∃ r, (export? net (some ask) id).run s = (r, s) ∧ AnswerExport l answer r) ∧
      ∃ e, (export? net none id).run s = (.error e, s) ∧ e.kind = .configuration := by
  refine ⟨?_, ?_⟩
  · intro spec hc haccepted hfit steps source
    obtain ⟨cs, hcs, hexport⟩ := formExport_of_matching hfit (Network.built_run steps)
    have hrun : (export? (Network.run steps) source id).run s = (.ok ⟨l.id, l.name, cs⟩, s) := by
      rw [run_export?_of_local hl _ (by simp [hc]), hc, localContingencies, haccepted.compile]
      change ((Contingency.perElement (spec.compiled.matchingAttributes _)).map _, s) = _
      rw [hcs]
      rfl
    refine ⟨cs, hexport, hrun, ?_⟩
    obtain ⟨positions, -, -, hselected⟩ := hexport.selected
    have hempty : ∀ c ∈ cs, c.missing = .empty :=
      forall_right_of_forall₂ hselected fun i c hc => by
        obtain ⟨e, -, rfl⟩ := hc
        rfl
    have hcount := count_of_nothing_missing (e := ⟨l.id, l.name, cs⟩) hempty
    rw [run_count, hrun]
    simp only [Except.map, hcount]
  · intro ids hc net
    refine ⟨fun ask answer hanswer => ⟨_, run_export?_of_filters hl net hc ask, ?_⟩, ?_⟩
    · rw [hanswer]
      exact answerExport_perElement l answer
    · exact ⟨_, run_export?_of_no_source hl net hc, rfl⟩

/-- All lines. -/
def lines : OutageList :=
  { id := .ofNat 1, name := "lines", modified := default, content := .form { type := .line } }

/-- What a filter kept elsewhere matches. -/
def remote : OutageList :=
  { id := .ofNat 2, name := "remote", modified := default, content := .filters [.ofNat 9] }

theorem export_per_element_lines :
    (∃ cs, FormExport { type := .line } (Network.run Filter.border) cs ∧
      (export? (Network.run Filter.border) none (.ofNat 1)).run (.ofLists [lines, remote]) =
        (.ok ⟨.ofNat 1, "lines", cs⟩, .ofLists [lines, remote])) ∧
    ∃ r, (export? .empty (some fun _ => .ok [⟨"C1", .converterStation, none⟩]) (.ofNat 2)).run
        (.ofLists [lines, remote]) = (r, .ofLists [lines, remote]) ∧
      AnswerExport remote [⟨"C1", .converterStation, none⟩] r := by
  have hlines : (Store.ofLists [lines, remote]).get? (.ofNat 1) = some lines := by decide
  have hremote : (Store.ofLists [lines, remote]).get? (.ofNat 2) = some remote := by decide
  have hfit : FilterSpec.PatternsFit { type := .line } := by
    intro p hp
    rcases hp with hp | hp <;> cases hp
  obtain ⟨cs, hcs, hrun, -⟩ :=
    (export_per_element hlines).1 _ rfl (.new .line) hfit Filter.border none
  exact ⟨⟨cs, hcs, hrun⟩, ((export_per_element hremote).2 _ rfl .empty).1 _ _ rfl⟩

end OutageList

end GridOutage
