import GridOutage.Proofs.Filter.Locality
import GridOutage.Proofs.Network.Reordering
import GridOutage.Proofs.OutageList.ElementExport

/-!
# The order of a document does not matter

Two networks that differ by a renumbering have the same elements under the same identifiers, so a
filter matches the same elements on both (`matching_perm`), and looking identifiers up gives the
same on both (`resolve_eq`). With `NetworkDocument.Reordered` this says of documents that nobody can
tell their orders apart by what is matched and exported.
-/
namespace GridOutage

open Outcome
open GridOutage.Filter (CompiledFilter)

/-! ## Filters -/

section

variable [PatternEngine]

theorem Filter.CompiledFilter.mem_matching_iff {f : CompiledFilter} {net : Network}
    {e : Equipment} :
    e ∈ f.matching net ↔ ∃ i, net.equipmentAt? i = some e ∧ f.accepts net i = true := by
  simp only [CompiledFilter.matching, Network.ofKind, List.mem_map, List.mem_filter, Prod.exists,
    Network.mem_equipments_iff, beq_iff_eq]
  constructor
  · intro h
    obtain ⟨i, e', ⟨⟨he, -⟩, ha⟩, rfl⟩ := h
    exact ⟨i, he, ha⟩
  · intro h
    obtain ⟨i, he, ha⟩ := h
    obtain ⟨e', he', hkind, -⟩ := CompiledFilter.accepts_iff.1 ha
    obtain rfl : e = e' := by rw [he] at he'; exact Option.some.inj he'
    exact ⟨i, e, ⟨⟨he, hkind⟩, ha⟩, rfl⟩

theorem Network.Renumbering.matching_subset {net other : Network} (h : net.Renumbering other)
    {log : List Network.Step} (hnet : net.Built log) (f : CompiledFilter) :
    f.matching net ⊆ f.matching other := by
  intro e he
  obtain ⟨i, hi, ha⟩ := CompiledFilter.mem_matching_iff.1 he
  have hname := hnet.position?_eq_some_iff.2 ⟨_, Network.equipmentAt?_eq_some_iff.1 hi, rfl⟩
  obtain ⟨j, hj⟩ := h.named _ i hname
  have hij : net.SameName other i j := ⟨_, hname, hj⟩
  refine CompiledFilter.mem_matching_iff.2 ⟨j, ?_, ?_⟩
  · rw [← h.alike.equipmentAt?_eq hij, hi]
  · rw [← f.accepts_eq h.alike hij, ha]

theorem Network.Renumbering.matching_perm {net other : Network} (h : net.Renumbering other)
    (h' : other.Renumbering net) {log log' : List Network.Step} (hnet : net.Built log)
    (hother : other.Built log') (f : CompiledFilter) :
    (f.matching net).Perm (f.matching other) := by
  refine (List.perm_ext_iff_of_nodup ?_ ?_).2 fun e => ⟨?_, ?_⟩
  · exact (f.matching_ids_nodup hnet).of_map _
  · exact (f.matching_ids_nodup hother).of_map _
  · exact fun he => h.matching_subset hnet f he
  · exact fun he => h'.matching_subset hother f he

end

/-! ## Groups of identifiers -/

namespace OutageList

theorem resolve_eq {net other : Network} (h : net.Renumbering other) (h' : other.Renumbering net) :
    resolve net = resolve other := by
  funext id
  rw [resolve, resolve, h.equipment?_eq h' id]

/-- Exporting groups of identifiers takes no more of the network than what they resolve to. -/
theorem run_export?_of_resolve [PatternEngine] {net other : Network}
    (h : resolve net = resolve other) {s : Store} {id : Uuid} {l : OutageList}
    (hl : s.get? id = some l) {groups : List IdentifierGroup} (hc : l.content = .identifiers groups)
    (source : Option (FilterSource Id)) :
    (export? net source id).run s = (export? other source id).run s := by
  have hlocal : ∀ ids, l.content ≠ .filters ids := by
    intro ids hids
    rw [hc] at hids
    cases hids
  rw [run_export?_of_local hl net hlocal, run_export?_of_local hl other hlocal, hc,
    localContingencies, localContingencies, h]

/-! ## Documents -/

theorem renumbering_of_reordered {d d' : NetworkDocument} (h : d.Reordered d') {net other : Network}
    (hnet : d.toNetwork = .ok net) (hother : d'.toNetwork = .ok other) :
    net.Renumbering other ∧ other.Renumbering net := by
  have hlaid := NetworkDocument.laidOut_of_toNetwork hnet
  have hlaid' := NetworkDocument.laidOut_of_toNetwork hother
  exact ⟨hlaid.renumbering hlaid' h.layout_perm, hlaid'.renumbering hlaid h.layout_perm.symm⟩

/-- Reordered documents make networks together, every filter matches the same elements on both, and
every list of identifiers is exported and counted the same. Documents that differ in where the HVDC
lines stand have the very same outcome. -/
theorem reordering_immaterial [PatternEngine] :
    (∀ d d' : NetworkDocument, d.Reordered d' →
      ((∃ net, d.toNetwork = .ok net) ↔ ∃ net, d'.toNetwork = .ok net) ∧
      ∀ net other, d.toNetwork = .ok net → d'.toNetwork = .ok other →
        (∀ f : CompiledFilter, (f.matching net).Perm (f.matching other)) ∧
        ∀ (s : Store) (id : Uuid) (l : OutageList) (groups : List IdentifierGroup),
          s.get? id = some l → l.content = .identifiers groups →
            ∀ source : Option (FilterSource Id),
              (export? net source id).run s = (export? other source id).run s ∧
                (count net source id).run s = (count other source id).run s) ∧
    ∀ d d' : NetworkDocument, d.LinesMoved d' → d.toNetwork = d'.toNetwork := by
  refine ⟨fun d d' h => ⟨?_, fun net other hnet hother => ⟨fun f => ?_, ?_⟩⟩, fun d d' h => ?_⟩
  · rw [NetworkDocument.exists_toNetwork_iff, NetworkDocument.exists_toNetwork_iff,
      h.acceptable_iff]
  · obtain ⟨hto, hfrom⟩ := renumbering_of_reordered h hnet hother
    obtain ⟨log, hbuilt⟩ := NetworkDocument.exists_built_of_toNetwork hnet
    obtain ⟨log', hbuilt'⟩ := NetworkDocument.exists_built_of_toNetwork hother
    exact hto.matching_perm hfrom hbuilt hbuilt' f
  · intro s id l groups hl hc source
    obtain ⟨hto, hfrom⟩ := renumbering_of_reordered h hnet hother
    have hexport := run_export?_of_resolve (resolve_eq hto hfrom) hl hc source
    exact ⟨hexport, by rw [run_count, run_count, hexport]⟩
  · rw [NetworkDocument.toNetwork, NetworkDocument.toNetwork, h.plan_eq]

/-- An HVDC line listed before its converter stations, and a generator. -/
def linkDocument : NetworkDocument where
  substations := [
    { id := "N", levels := [⟨"N380", none, .ofInt 380⟩, ⟨"N225", none, .ofInt 225⟩] },
    { id := "S", levels := [⟨"S380", none, .ofInt 380⟩] }]
  equipment := [
    { id := "H", kind := .equipment .hvdcLine, stations := ["A", "B"] },
    { id := "A", kind := .converterStation, terminals := ["N380"] },
    { id := "B", kind := .converterStation, terminals := ["S380"] },
    { id := "G", kind := .equipment .generator, terminals := ["N225"] }]

/-- The same from the end to the beginning, the voltage levels too. -/
def reversedDocument : NetworkDocument where
  substations := [
    { id := "S", levels := [⟨"S380", none, .ofInt 380⟩] },
    { id := "N", levels := [⟨"N225", none, .ofInt 225⟩, ⟨"N380", none, .ofInt 380⟩] }]
  equipment := linkDocument.equipment.reverse

/-- The same with the line listed last. -/
def lineLastDocument : NetworkDocument where
  substations := linkDocument.substations
  equipment := linkDocument.equipment.rotate 1

/-- The generator and something unknown. -/
def generatorList : OutageList :=
  { id := .ofNat 3, name := "generator", modified := default,
    content := .identifiers [⟨"N-1", ["G", "X"]⟩] }

theorem reordered_reversedDocument : linkDocument.Reordered reversedDocument where
  substations := ⟨reversedDocument.substations.reverse,
    .cons ⟨rfl, rfl, rfl, .swap _ _ _⟩ (.cons ⟨rfl, rfl, rfl, .refl _⟩ .nil), .swap _ _ _⟩
  equipment := (List.reverse_perm _).symm

theorem reordering_immaterial_link :
    ∃ net other, linkDocument.toNetwork = .ok net ∧ reversedDocument.toNetwork = .ok other ∧
      lineLastDocument.toNetwork = .ok net ∧
      (∀ f : CompiledFilter, (f.matching net).Perm (f.matching other)) ∧
      (export? net none (.ofNat 3)).run (.ofLists [generatorList]) =
        (export? other none (.ofNat 3)).run (.ofLists [generatorList]) := by
  have hlink : linkDocument.toNetwork.isOk = true := by decide +kernel
  have hmoved : linkDocument.LinesMoved lineLastDocument := ⟨rfl, by decide, by decide⟩
  have hlist : (Store.ofLists [generatorList]).get? (.ofNat 3) = some generatorList := by decide
  have hreordered := reordering_immaterial.1 _ _ reordered_reversedDocument
  cases hnet : linkDocument.toNetwork with
  | error fault =>
    rw [hnet] at hlink
    cases hlink
  | ok net =>
    obtain ⟨other, hother⟩ := hreordered.1.1 ⟨net, hnet⟩
    obtain ⟨hmatching, hexport⟩ := hreordered.2 net other hnet hother
    refine ⟨net, other, rfl, hother, ?_, hmatching, (hexport _ _ _ _ hlist rfl none).1⟩
    rw [← reordering_immaterial.2 _ _ hmoved, hnet]

end OutageList

end GridOutage
