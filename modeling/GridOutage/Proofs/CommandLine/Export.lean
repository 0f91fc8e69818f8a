import GridOutage.CommandLine.Run
import GridOutage.Proofs.Contingency.WireForm
import GridOutage.Proofs.Document.JsonRoundTrip
import GridOutage.Proofs.Files
import GridOutage.Proofs.Outcome
import GridOutage.Proofs.OutageList.Service
import GridOutage.Proofs.OutageList.TextForm

/-!
# What an export reports

An export collects lists from files, looks each up by its identifier among all of them, prints what
could be exported and exits with 0 if that was everything. `Given` says which lists the paths of a
command line stand for and `Reports` what an outcome says of lists, both without the program.

* `run_exportAll_ofLists`: the lists are exported as the list service exports them.
* `run_reports_last`: with files that do not change and no filter service, the outcome reports lists
  in the order of the given ones, in the place of each the last that has its identifier.
* `north_not_reported`: of two files that use one identifier, the first is left out, and its place
  taken by the second.
-/
namespace GridOutage.CommandLine

open Document (Format JsonText.pretty Json.read Value)
open OutageList (Draft)
open GridOutage.Outcome (map_eq_ok_iff)

/-! ## Lists from files -/

/-- Paths and the lists that their documents give, in order: one for a file, and for a directory
those of its documents by file name. -/
inductive Given (t : Disk) : List String → List Draft → Prop
  | nil : Given t [] []
  | file {path : String} {paths : List String} {d : Draft} {ds : List Draft}
      (hkind : t.kind? path ≠ some .directory) (hd : t.Holds Files.listOfText path d)
      (h : Given t paths ds) : Given t (path :: paths) (d :: ds)
  | directory {path : String} {paths documents : List String} {found ds : List Draft}
      (hkind : t.kind? path = some .directory) (hdocuments : t.Documents path documents)
      (hfound : List.Forall₂ (t.Holds Files.listOfText) (documents.map (Files.child path)) found)
      (h : Given t paths ds) : Given t (path :: paths) (found ++ ds)

section

variable {m : Type → Type} [Monad m] [LawfulMonad m] {s : Surroundings m}

theorem collect_cons {path : String} {paths : List String} {x y : m (List OutageList)}
    (hx : listsAt s path = Except.ok <$> x) (hy : collect s paths = Except.ok <$> y) :
    collect s (path :: paths) = Except.ok <$> do return (← x) ++ (← y) := by
  rw [collect, hx, hy]
  simp [Except.map]

variable {t : Disk} (hs : s.files = t.files m)

include hs

theorem listsAt_file {path : String} {d : Draft} (hkind : t.kind? path ≠ some .directory)
    (hd : t.Holds Files.listOfText path d) :
    listsAt s path = Except.ok <$> do return [← complete s d] := by
  have hload := Disk.load_eq (m := m) hd
  unfold listsAt
  rw [hs, hload]
  simp [Disk.files, hkind]

theorem listsAt_directory {path : String} {documents : List String} {found : List Draft}
    (hkind : t.kind? path = some .directory) (hdocuments : t.Documents path documents)
    (hfound : List.Forall₂ (t.Holds Files.listOfText) (documents.map (Files.child path)) found) :
    listsAt s path = Except.ok <$> found.mapM (complete s) := by
  have hload := Disk.loadDirectory_eq (m := m) hdocuments hfound
  unfold listsAt directoryLists
  rw [hs, hload]
  simp [Disk.files, hkind]

/-- The lists of the documents are collected, each completed in its turn. -/
theorem collect_eq {paths : List String} {ds : List Draft} (h : Given t paths ds) :
    collect s paths = Except.ok <$> ds.mapM (complete s) := by
  induction h with
  | nil => simp [collect]
  | file hkind hd _ ih =>
    rw [collect_cons (listsAt_file hs hkind hd) ih, List.mapM_cons]
    simp
  | directory hkind hdocuments hfound _ ih =>
    rw [collect_cons (listsAt_directory hs hkind hdocuments hfound) ih, List.mapM_append]

end

/-! ## Exporting without a filter service -/

section

variable [PatternEngine]

/-- What a list by itself is exported as. -/
structure ExportOf (net : Network) (l : OutageList) (e : Exported) : Prop where
  id : e.id = l.id
  name : e.name = l.name
  contingencies : OutageList.localContingencies net l.id l.content = .ok e.contingencies

/-- What the lists that can be exported are exported as, in their order. -/
inductive Exports (net : Network) : List OutageList → List Exported → Prop
  | nil : Exports net [] []
  | exported {l : OutageList} {ls : List OutageList} {e : Exported} {es : List Exported}
      (he : ExportOf net l e) (h : Exports net ls es) : Exports net (l :: ls) (e :: es)
  | failed {l : OutageList} {ls : List OutageList} {es : List Exported}
      (hl : ¬ ∃ e, ExportOf net l e) (h : Exports net ls es) : Exports net (l :: ls) es

/-- An outcome reports lists: it prints the JSON array of what those that can be exported are
exported as, and exits with 0 if all can be and with 1 otherwise. -/
structure Reports (net : Network) (ls : List OutageList) (o : Outcome) : Prop where
  printed : ∃ es, Exports net ls es ∧ Json.read o.output = (.arr (es.map Exported.encode), true)
  success : (∀ l ∈ ls, ∃ e, ExportOf net l e) → o.exit = 0
  failure : (¬ ∀ l ∈ ls, ∃ e, ExportOf net l e) → o.exit = 1

/-- The export of a list by itself. -/
def own (net : Network) (l : OutageList) : Except Error Exported :=
  (OutageList.localContingencies net l.id l.content).map fun cs => ⟨l.id, l.name, cs⟩

theorem own_eq_ok_iff {net : Network} {l : OutageList} {e : Exported} :
    own net l = .ok e ↔ ExportOf net l e := by
  refine map_eq_ok_iff.trans ⟨?_, ?_⟩
  · rintro ⟨cs, hcs, rfl⟩
    exact ⟨rfl, rfl, hcs⟩
  · rintro ⟨hid, hname, hcs⟩
    exact ⟨e.contingencies, hcs, by rw [← hid, ← hname]⟩

theorem exported_none {m : Type → Type} [Monad m] [LawfulMonad m] (net : Network) (l : OutageList) :
    l.exported (m := m) net none = pure (own net l) := by
  have hlocal : l.contingencies (m := m) net none =
      pure (OutageList.localContingencies net l.id l.content) := by
    unfold OutageList.contingencies
    cases l.content <;> rfl
  rw [OutageList.exported, hlocal, pure_bind]
  rfl

theorem exports_own (net : Network) (ls : List OutageList) :
    Exports net ls ((ls.map (own net)).filterMap Except.toOption) := by
  induction ls with
  | nil => exact .nil
  | cons l ls ih =>
    rw [List.map_cons]
    cases hl : own net l with
    | ok e => exact .exported (own_eq_ok_iff.1 hl) ih
    | error why =>
      refine .failed ?_ ih
      rintro ⟨e, he⟩
      rw [own_eq_ok_iff.2 he] at hl
      cases hl

theorem toBool_own_iff {net : Network} {l : OutageList} :
    (own net l).toBool = true ↔ ∃ e, ExportOf net l e := by
  simp only [← own_eq_ok_iff]
  cases own net l <;> simp [Except.toBool]

end

/-! ### The printed text -/

theorem written_exported (e : Exported) {p : Binary64 → Prop} (n : Nat) :
    e.encode.Written p (n + 5) := by
  have hcontingencies : (Value.arr (e.contingencies.map Contingency.encode)).Written p (n + 4) :=
    .arr (List.forall_mem_map.2 fun c _ => c.written_encode n)
  refine .obj ?_
  simp only [List.forall_mem_cons]
  exact ⟨.str _, .str _, hcontingencies, List.forall_mem_nil _⟩

theorem name_eq_of_encode_eq {e e' : Exported} (h : e.encode = e'.encode) : e.name = e'.name := by
  simp only [Exported.encode, Value.obj.injEq, List.cons.injEq, Prod.mk.injEq, Value.str.injEq] at h
  exact h.2.1.2

/-- What an export prints is the JSON of what it exported. -/
theorem read_contingencyJson (es : List Exported) :
    Json.read (contingencyJson es) = (.arr (es.map Exported.encode), true) := by
  have hwritten {p : Binary64 → Prop} : (Value.arr (es.map Exported.encode)).Written p 6 :=
    .arr (List.forall_mem_map.2 fun e _ => written_exported e 0)
  have hread := Document.Json.read_pretty_line hwritten
  rwa [hwritten.reread_eq] at hread

theorem reports_exportOutcome [PatternEngine] (net : Network) (ls : List OutageList) :
    Reports net ls (exportOutcome (ls.map (own net))) := by
  have hall : ((ls.map (own net)).all fun r => r.toBool) = true ↔ ∀ l ∈ ls, ∃ e, ExportOf net l e := by
    simp only [List.all_map, List.all_eq_true, Function.comp, toBool_own_iff]
  refine ⟨⟨_, exports_own net ls, read_contingencyJson _⟩, fun h => ?_, fun h => ?_⟩
  · exact if_pos (hall.2 h)
  · exact if_neg fun hb => h (hall.1 hb)

/-! ## Lists that are looked up by their identifiers -/

/-- Lists are exported as the service exports their identifiers from a store of these lists. -/
theorem run_exportAll_ofLists [PatternEngine] (net : Network) (source : Option (FilterSource Id))
    (ls : List OutageList) :
    (OutageList.exportAll net source (ls.map (·.id))).run (Store.ofLists ls) =
      (.ok (exportLists net source ls).run, Store.ofLists ls) := by
  rw [OutageList.run_exportAll, exportLists, List.idRun_mapM, List.map_map]
  refine congrArg (fun rs => (Except.ok rs, Store.ofLists ls)) (List.map_congr_left fun l hl => ?_)
  -- The store has a list under the identifier, as one is given.
  obtain ⟨last, hlast⟩ := Store.exists_lastWith ⟨l, hl, rfl⟩
  have hstored := Store.get?_ofLists hlast
  rw [Function.comp_apply, OutageList.run_export?, OutageList.found, hstored]
  rfl

/-- What is exported in the place of a list: what its identifier leads to among all lists. -/
def shown (ls : List OutageList) (l : OutageList) : OutageList :=
  ((Store.ofLists ls).get? l.id).getD l

theorem lastWith_shown {ls : List OutageList} {l : OutageList} (hl : l ∈ ls) :
    Store.LastWith l.id ls (shown ls l) := by
  obtain ⟨last, hlast⟩ := Store.exists_lastWith ⟨l, hl, rfl⟩
  rwa [shown, Store.get?_ofLists hlast, Option.getD_some]

/-- Where no other list has its identifier, that is the list itself. -/
theorem shown_eq_self {ls : List OutageList} (h : ∀ l ∈ ls, ∀ l' ∈ ls, l.id = l'.id → l = l') :
    ls.map (shown ls) = ls := by
  refine (List.map_congr_left fun l hl => ?_).trans (List.map_id ls)
  have hlast := lastWith_shown hl
  exact (h l hl _ hlast.mem hlast.id_eq.symm).symm

theorem exportLists_none [PatternEngine] {m : Type → Type} [Monad m] [LawfulMonad m] (net : Network)
    (ls : List OutageList) :
    exportLists (m := m) net none ls = pure ((ls.map (shown ls)).map (own net)) := by
  rw [exportLists, List.map_map]
  simp only [exported_none]
  exact List.mapM_pure

/-! ## Running an export -/

/-- A command line asks, without naming a filter service, for the export of some lists on a network,
and everything that it names is there. -/
inductive AsksExport (t : Disk) (arguments : List String) (net : Network) (ds : List Draft) : Prop
  | intro {i : Invocation} {network : String} {paths : List String} {threads variant : Option String}
      {settings : Settings} {n : Nat} (hi : Invocation.ofArguments? arguments = some i)
      (hcommand : i.command = .exporting network paths threads none variant)
      (hsettings : t.SettingsAt i.settings settings) (hnet : t.Holds Files.networkOfText network net)
      (hlists : Given t paths ds) (hthreads : Settings.threadCount (threads.getD settings.threads) = .ok n)

section

variable {m : Type → Type} [Monad m] [LawfulMonad m] {s : Surroundings m} {t : Disk}
  (hs : s.files = t.files m)

include hs

variable [PatternEngine]

theorem run_export {arguments : List String} {net : Network} {ds : List Draft}
    (h : AsksExport t arguments net ds) :
    run s arguments = (fun ls => exportOutcome ((ls.map (shown ls)).map (own net))) <$>
      ds.mapM (complete s) := by
  obtain ⟨hi, hcommand, hsettings, hnet, hlists, hthreads⟩ := h
  have hloaded := Disk.loadSettings_eq (m := m) hsettings
  have hnetwork := Disk.load_eq (m := m) hnet
  rw [run, hi]
  simp only [hs, hloaded, pure_bind, hcommand, runCommand, runExport, hnetwork, collect_eq hs hlists,
    hthreads, Option.map_none, exportLists_none, map_eq_pure_bind, bind_assoc]

/-- An export reports lists, one for each that is given and in their order: in the place of a list
the last one with its identifier. So where lists that have one identifier are the same list, it
reports the lists that are given. -/
theorem run_reports_last {arguments : List String} {net : Network} {ds : List Draft}
    (h : AsksExport t arguments net ds) :
    ∃ report : List OutageList → Outcome, run s arguments = report <$> ds.mapM (complete s) ∧
      ∀ ls, (∃ last, List.Forall₂ (fun l l' => Store.LastWith l.id ls l') ls last ∧
          Reports net last (report ls)) ∧
        ((∀ l ∈ ls, ∀ l' ∈ ls, l.id = l'.id → l = l') → Reports net ls (report ls)) := by
  refine ⟨_, run_export hs h, fun ls => ⟨⟨ls.map (shown ls), ?_, reports_exportOutcome net _⟩, ?_⟩⟩
  · rw [List.forall₂_map_right_iff, List.forall₂_same]
    exact fun l hl => lastWith_shown hl
  · intro hsame
    have hreports := reports_exportOutcome net (ls.map (shown ls))
    rwa [shown_eq_self hsame] at hreports ⊢

end

/-! ## Lists in two files -/

/-- A plain name with a stem and the extension of JSON is that of a JSON document. -/
theorem ofPath_json {name : String} (stem : String) (hparts : name.splitOn "/" = [name])
    (hextension : name.splitOn "." = [stem, "json"]) (hstem : stem ≠ "") (hname : name ≠ "")
    (hdot : name ≠ ".") (hdots : name ≠ "..") : Format.ofPath name = .json := by
  have hfile : Document.fileName? name = some name := by
    unfold Document.fileName?
    rw [hparts]
    simp [hname, hdot, hdots]
  have hlast : Document.extension? name = some "json" := by
    unfold Document.extension?
    rw [hextension]
    simp [hstem]
  rw [Format.ofPath, hfile, Option.bind_some, Format.ofName?, hlast]
  decide

/-- A network without anything, and two files with a list each. -/
def twoLists (a b : OutageList) : Disk where
  kind? path := if path ∈ ["network.json", "a.json", "b.json"] then some .file else none
  read? path :=
    if path = "network.json" then some "\x7b\x7d"
    else if path = "a.json" then some (JsonText.pretty a.encode)
    else if path = "b.json" then some (JsonText.pretty b.encode)
    else none
  names? _ := none

theorem ofPath_twoLists :
    ∀ path ∈ ["network.json", "a.json", "b.json"], Format.ofPath path = .json := by
  simp only [List.forall_mem_cons]
  refine ⟨ofPath_json "network" ?_ ?_ ?_ ?_ ?_ ?_, ofPath_json "a" ?_ ?_ ?_ ?_ ?_ ?_,
    ofPath_json "b" ?_ ?_ ?_ ?_ ?_ ?_, List.forall_mem_nil _⟩
  -- Splitting has to be opened step by step where it is not decided.
  all_goals first
    | decide
    | unfold String.splitOn
      rw [if_neg (by decide)]
      repeat (unfold String.splitOnAux; simp +decide only [↓reduceIte])

/-- The export of both lists. -/
def exportBoth : List String := ["export", "network.json", "a.json", "b.json"]

theorem asksExport_both {a b : OutageList}
    (ha : Files.listOfText .json (JsonText.pretty a.encode) = .ok (.ofList a))
    (hb : Files.listOfText .json (JsonText.pretty b.encode) = .ok (.ofList b)) :
    AsksExport (twoLists a b) exportBoth .empty [.ofList a, .ofList b] := by
  have hcommand : Invocation.ofArguments? exportBoth =
      some ⟨"ctg.toml", none, .exporting "network.json" ["a.json", "b.json"] none none none⟩ := by
    decide +kernel
  have hnet : (twoLists a b).Holds Files.networkOfText "network.json" .empty := by
    refine ⟨_, rfl, ?_⟩
    rw [ofPath_twoLists _ (by decide)]
    rfl
  have hfirst : (twoLists a b).Holds Files.listOfText "a.json" (.ofList a) := by
    refine ⟨_, rfl, ?_⟩
    rw [ofPath_twoLists _ (by decide)]
    exact ha
  have hsecond : (twoLists a b).Holds Files.listOfText "b.json" (.ofList b) := by
    refine ⟨_, rfl, ?_⟩
    rw [ofPath_twoLists _ (by decide)]
    exact hb
  have hfile : some FileKind.file ≠ some FileKind.directory := by decide
  exact .intro hcommand rfl (.absent rfl) hnet
    (.file hfile hfirst (.file hfile hsecond .nil)) rfl

/-- Two lines that go out together. -/
def north : OutageList where
  id := .ofNat 7
  name := "north"
  modified := ⟨0, 0⟩
  content := .identifiers [⟨"N-2", ["L1", "L2"]⟩]

/-- Another line, in a list with the same identifier. -/
def south : OutageList where
  id := .ofNat 7
  name := "south"
  modified := ⟨0, 0⟩
  content := .identifiers [⟨"N-1", ["L3"]⟩]

/-- A script, in a list of its own. -/
def script : OutageList where
  id := .ofNat 8
  name := "script"
  modified := ⟨0, 0⟩
  content := .script "for (l in network.lines) trip(l)"

/-- A list without a filter has no numbers, so its file holds it as it is. -/
theorem listOfText_of_ne_form {l : OutageList} (h : ∀ spec, l.content ≠ .form spec)
    (hmodified : l.modified.Valid) :
    Files.listOfText .json (JsonText.pretty l.encode) = .ok (.ofList l) := by
  have hbounds : l.content.bounds = [] := by
    cases hl : l.content with
    | form spec => exact absurd hl (h spec)
    | identifiers | filters | script => rfl
  refine Draft.listOfText_pretty (fun spec hl => absurd hl (h spec)) hmodified ?_
  rw [hbounds]
  exact List.forall_mem_nil _

theorem listOfText_north : Files.listOfText .json (JsonText.pretty north.encode) = .ok (.ofList north) :=
  listOfText_of_ne_form (fun _ h => by cases h) (by decide)

theorem listOfText_south : Files.listOfText .json (JsonText.pretty south.encode) = .ok (.ofList south) :=
  listOfText_of_ne_form (fun _ h => by cases h) (by decide)

theorem listOfText_script :
    Files.listOfText .json (JsonText.pretty script.encode) = .ok (.ofList script) :=
  listOfText_of_ne_form (fun _ h => by cases h) (by decide)

/-- The surroundings of a run of which only the files matter. -/
def surroundings (t : Disk) : Surroundings Id := ⟨t.files Id, fun _ _ => none, .ofNat 0, ⟨0, 0⟩⟩

/-- Where the lists have their own identifiers, both are reported, and that one fails. -/
theorem run_reports_last_script :
    AsksExport (twoLists north script) exportBoth .empty [.ofList north, .ofList script] ∧
      Reports .empty [north, script] (run (surroundings (twoLists north script)) exportBoth) := by
  have hasks := asksExport_both listOfText_north listOfText_script
  obtain ⟨report, hrun, hreport⟩ := run_reports_last (s := surroundings (twoLists north script)) rfl hasks
  refine ⟨hasks, ?_⟩
  rw [hrun]
  exact (hreport [north, script]).2 (by decide)

/-- Two lists with one identifier are given, and the first is not reported. -/
theorem north_not_reported :
    AsksExport (twoLists north south) exportBoth .empty [.ofList north, .ofList south] ∧
      ¬ Reports .empty [north, south] (run (surroundings (twoLists north south)) exportBoth) := by
  have hasks := asksExport_both listOfText_north listOfText_south
  have hshown : [north, south].map (shown [north, south]) = [south, south] := by decide
  obtain ⟨e, he⟩ : ∃ e, own .empty south = .ok e := ⟨_, rfl⟩
  obtain ⟨e', he'⟩ : ∃ e', own .empty north = .ok e' := ⟨_, rfl⟩
  refine ⟨hasks, fun h => ?_⟩
  rw [run_export (s := surroundings (twoLists north south)) rfl hasks] at h
  obtain ⟨⟨es, hes, hread⟩, -, -⟩ := h
  change Json.read (contingencyJson ((([north, south].map (shown [north, south])).map
    (own .empty)).filterMap Except.toOption)) = _ at hread
  rw [hshown, read_contingencyJson] at hread
  have hsame : [e.encode, e.encode] = es.map Exported.encode := by
    simpa [he, Except.toOption] using hread
  -- The first report is that of the north, and what is printed first is that of the south.
  cases hes with
  | failed hnone _ => exact hnone ⟨e', own_eq_ok_iff.1 he'⟩
  | exported hexport _ =>
    have hname := name_eq_of_encode_eq (List.cons.inj hsame).1
    rw [(own_eq_ok_iff.1 he).name, hexport.name] at hname
    revert hname
    decide

end GridOutage.CommandLine
