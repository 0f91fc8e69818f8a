import GridOutage.Proofs.OutageList.Calls
import GridOutage.Proofs.Text.ByteOrder
import Mathlib.Data.List.Sort
import Mathlib.Order.Fin.Basic

/-!
# Listing a store

`Listing` says what a list of all stored lists is: it has each of them once, in the order of the
bytes of their names and, where names are the same, of their identifiers. A store has just one such
list (`Listing.unique`), for no two lists in it have the same identifier; so how the entries of a
store came to be where they are does not show.

`listing_list` says that a store is listed so, if every list in it is stored under its own
identifier, and `listing_exact` that all stores are that calls reach.
-/
namespace GridOutage

namespace OutageList

/-! ## The order of lists -/

/-- A list comes before another: by the bytes of their names, then by their identifiers. -/
def Precedes (a b : OutageList) : Prop :=
  Text.bytes a.name < Text.bytes b.name ∨ a.name = b.name ∧ a.id.value < b.id.value

instance : Std.Irrefl Precedes where
  irrefl a h := by
    rcases h with hname | ⟨-, hid⟩
    · exact List.lt_irrefl _ hname
    · exact Nat.lt_irrefl _ hid

instance : Std.Asymm Precedes where
  asymm a b hab hba := by
    rcases hab with hab | ⟨hname, hab⟩
    · rcases hba with hba | ⟨hname, -⟩
      · exact List.lt_asymm hab hba
      · rw [hname] at hab
        exact List.lt_irrefl _ hab
    · rcases hba with hba | ⟨-, hba⟩
      · rw [hname] at hba
        exact List.lt_irrefl _ hba
      · exact Nat.lt_asymm hab hba

end OutageList

namespace Store

open OutageList (Precedes)

theorem before_iff {a b : OutageList} :
    before a b = true ↔ a.name < b.name ∨ a.name = b.name ∧ a.id.value ≤ b.id.value := by
  unfold before
  split
  · next h => simp [h, Uuid.le]
  · next h => simp [h]

theorem before_trans (a b c : OutageList) (hab : before a b = true) (hbc : before b c = true) :
    before a c = true := by
  rw [before_iff] at *
  rcases hab with hab | ⟨hname, hab⟩
  · rcases hbc with hbc | ⟨hname, -⟩
    · exact .inl (hab.trans hbc)
    · exact .inl (hname ▸ hab)
  · rw [hname]
    exact hbc.imp_right fun ⟨hname, hbc⟩ => ⟨hname, hab.trans hbc⟩

theorem before_total (a b : OutageList) : (before a b || before b a) = true := by
  rw [Bool.or_eq_true, before_iff, before_iff]
  rcases lt_trichotomy a.name b.name with hname | hname | hname
  · exact .inl (.inl hname)
  · exact (le_total a.id.value b.id.value).imp (fun h => .inr ⟨hname, h⟩)
      fun h => .inr ⟨hname.symm, h⟩
  · exact .inr (.inl hname)

theorem precedes_of_before {a b : OutageList} (h : before a b = true) (hne : a.id ≠ b.id) :
    a.Precedes b := by
  rcases before_iff.1 h with hname | ⟨hname, hid⟩
  · exact .inl (Text.bytes_lt_of_lt hname)
  · refine .inr ⟨hname, lt_of_le_of_ne hid fun hvalue => hne ?_⟩
    cases ha : a.id
    cases hb : b.id
    rw [ha, hb] at hvalue
    exact congrArg Uuid.mk hvalue

/-! ## What is stored -/

/-- A list is in the store, under some identifier. -/
def Stored (s : Store) (l : OutageList) : Prop := ∃ id, s.get? id = some l

theorem get?_eq_some_iff {s : Store} {id : Uuid} {l : OutageList} :
    s.get? id = some l ↔ (id, l) ∈ s.entries := by
  rw [get?, List.lookup_eq_some_iff]
  constructor
  · rintro ⟨front, back, hentries, -⟩
    rw [hentries]
    exact List.mem_append_right _ List.mem_cons_self
  · intro h
    obtain ⟨front, back, hentries⟩ := List.append_of_mem h
    refine ⟨front, back, hentries, fun e he => ?_⟩
    have hdistinct := s.distinct
    rw [hentries, List.map_append, List.map_cons, List.nodup_append] at hdistinct
    rw [bne_iff_ne]
    exact (hdistinct.2.2 e.1 (List.mem_map_of_mem he) id List.mem_cons_self).symm

theorem stored_iff_mem {s : Store} {l : OutageList} :
    s.Stored l ↔ l ∈ s.entries.map Prod.snd := by
  simp [Stored, get?_eq_some_iff]

theorem Keyed.stored_iff {s : Store} (h : s.Keyed) {l : OutageList} :
    s.Stored l ↔ s.get? l.id = some l := by
  refine ⟨?_, fun hl => ⟨_, hl⟩⟩
  rintro ⟨id, hl⟩
  rw [h id l hl, hl]

theorem stored_ofLists_iff {ls : List OutageList} {l : OutageList} :
    (ofLists ls).Stored l ↔ LastWith l.id ls l := by
  rw [(keyed_ofLists ls).stored_iff]
  refine ⟨fun hl => ?_, get?_ofLists⟩
  have hsome : ∃ l' ∈ ls, l'.id = l.id := by
    by_contra hno
    rw [ofLists, get?_foldl_put fun l' hl' hid => hno ⟨l', hl', hid⟩] at hl
    cases hl
  obtain ⟨l', hlast⟩ := exists_lastWith hsome
  rw [get?_ofLists hlast] at hl
  exact Option.some.inj hl ▸ hlast

/-! ## All of it in order -/

/-- A list of what is stored: all of it, nothing twice, in order. -/
structure Listing (s : Store) (ls : List OutageList) : Prop where
  mem_iff : ∀ l, l ∈ ls ↔ s.Stored l
  nodup : ls.Nodup
  sorted : ls.Pairwise Precedes

theorem Listing.unique {s s' : Store} {ls ls' : List OutageList} (h : s.Listing ls)
    (h' : s'.Listing ls') (hstored : ∀ l, s.Stored l ↔ s'.Stored l) : ls = ls' :=
  h.sorted.eq_of_mem_iff h'.sorted fun l => by rw [h.mem_iff, hstored, h'.mem_iff]

theorem Keyed.ids_nodup {s : Store} (h : s.Keyed) : (s.list.map OutageList.id).Nodup := by
  have hkeys : (s.entries.map Prod.snd).map OutageList.id = s.entries.map Prod.fst := by
    rw [List.map_map]
    exact List.map_congr_left fun e he => h e.1 e.2 (get?_eq_some_iff.2 he)
  have hperm := (List.mergeSort_perm (s.entries.map Prod.snd) before).map OutageList.id
  rw [list, hperm.nodup_iff, hkeys]
  exact s.distinct

theorem listing_list {s : Store} (h : s.Keyed) : s.Listing s.list := by
  have hids : s.list.Pairwise fun a b => a.id ≠ b.id := List.pairwise_map.1 h.ids_nodup
  have hordered := List.pairwise_mergeSort before_trans before_total (s.entries.map Prod.snd)
  refine ⟨fun l => ?_, hids.imp fun hne hab => hne (congrArg _ hab),
    hordered.imp₂ (fun _ _ => precedes_of_before) hids⟩
  rw [list, List.mem_mergeSort, stored_iff_mem]

end Store

namespace OutageList.Call

/-- After every run of calls the stored lists are listed, each once and in order, which can be done in
one way only. Two runs that end with the same lists list them alike, and of given lists with one
identifier the last is there. The order of the bytes of names is that of their code points. -/
theorem listing_exact [PatternEngine] (ls : List OutageList) (calls : List Call) :
    (∃ listed, Call.list.run (runAll calls (.ofLists ls)) =
        (.ok listed, runAll calls (.ofLists ls)) ∧
      (runAll calls (.ofLists ls)).Listing listed ∧
      ∀ other, (runAll calls (.ofLists ls)).Listing other → other = listed) ∧
    (∀ (ls' : List OutageList) (calls' : List Call),
      (∀ l, (runAll calls (.ofLists ls)).Stored l ↔ (runAll calls' (.ofLists ls')).Stored l) →
      (Call.list.run (runAll calls (.ofLists ls))).1 =
        (Call.list.run (runAll calls' (.ofLists ls'))).1) ∧
    (∀ l, l ∈ (Store.ofLists ls).list ↔ Store.LastWith l.id ls l) ∧
    ∀ a b : String, Text.bytes a < Text.bytes b ↔ a < b := by
  have hlisting (ls : List OutageList) (calls : List Call) :
      (runAll calls (.ofLists ls)).Listing (runAll calls (.ofLists ls)).list :=
    Store.listing_list (runAll_keyed calls (Store.keyed_ofLists ls))
  refine ⟨⟨_, rfl, hlisting ls calls, fun other hother => ?_⟩, fun ls' calls' hstored => ?_,
    fun l => ?_, fun a b => Text.bytes_lt_iff⟩
  · exact hother.unique (hlisting ls calls) fun _ => Iff.rfl
  · exact congrArg Except.ok ((hlisting ls calls).unique (hlisting ls' calls') hstored)
  · exact ((hlisting ls []).mem_iff l).trans Store.stored_ofLists_iff

/-- A group of a line, under the same name as `pair`. -/
def single : OutageList :=
  { id := .ofNat 2, name := "pair", modified := default, content := .identifiers [⟨"N-1", ["L3"]⟩] }

/-- The identifier of `pair` is first given to another list. -/
def given : List OutageList := [{ pair with name := "old" }, single, pair]

/-- The same lists are made one after the other, the last first. -/
def making : List Call :=
  [.create (.ofNat 7) default "pair" pair.content, .create (.ofNat 2) default "pair" single.content]

theorem listing_exact_single :
    (∀ l, (runAll [] (.ofLists given)).Stored l ↔ (runAll making (.ofLists [])).Stored l) ∧
    (runAll [] (.ofLists given)).Listing [single, pair] ∧
    (Call.list.run (runAll [] (.ofLists given))).1 = .ok [single, pair] ∧
    (Call.list.run (runAll [] (.ofLists given))).1 =
      (Call.list.run (runAll making (.ofLists []))).1 := by
  have hgiven : (runAll [] (.ofLists given)).entries = [(.ofNat 7, pair), (.ofNat 2, single)] := by
    decide +kernel
  have hmade : (runAll making (.ofLists [])).entries = [(.ofNat 2, single), (.ofNat 7, pair)] := by
    decide +kernel
  have hstored (l : OutageList) :
      (runAll [] (.ofLists given)).Stored l ↔ (runAll making (.ofLists [])).Stored l := by
    rw [Store.stored_iff_mem, Store.stored_iff_mem, hgiven, hmade]
    simp [or_comm]
  have hlisting : (runAll [] (.ofLists given)).Listing [single, pair] := by
    refine ⟨fun l => ?_, by decide, ?_⟩
    · rw [Store.stored_iff_mem, hgiven]
      simp [or_comm]
    · exact List.pairwise_pair.2 (.inr ⟨rfl, by decide⟩)
  obtain ⟨⟨listed, hrun, -, hunique⟩, halike, -⟩ := listing_exact given []
  refine ⟨hstored, hlisting, ?_, halike [] making hstored⟩
  rw [hrun, hunique _ hlisting]

end OutageList.Call

end GridOutage
