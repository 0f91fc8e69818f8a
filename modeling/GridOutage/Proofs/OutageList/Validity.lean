import GridOutage.Proofs.Filter.Accepted
import GridOutage.Proofs.OutageList.Calls

/-!
# Only valid lists are stored

`Store.Valid` is the invariant: the content of every stored list passes its check. A list comes into
the store in five ways. Two of them check what they are given, a copy has the content of a list that
is stored already, and the two conversions store the script of a form, which is never blank and so
passes as well (`FilterSpec.script_sound`).

* `ListContent.validate_eq_ok_iff`: what a content is checked for, spelled out as `Sound`.
* `Call.run_valid`, `Call.runAll_valid`: one call and every run of calls keep the invariant.
* `Call.runAll_only_sound`: what follows for every store that calls reach, scripts included: a list
  has one unless its kind has none, and a form is always converted.
-/
namespace GridOutage

open Outcome
open GridOutage.Filter (FilterSpec CompiledFilter VoltageFilter)

/-! ## What is checked -/

namespace ListContent

/-- What the content of a list must be like: a filter compiles, for its bounds make sense, no group
has a blank identifier, references name some filter, and a script says something. -/
def Sound : ListContent → Prop
  | .form spec => (∃ f, spec.compile = .ok f) ∧ (∀ f ∈ spec.voltage1, f.Sound) ∧
    ∀ f ∈ spec.voltage2, f.Sound
  | .identifiers groups => ∀ g ∈ groups, Text.blank g.id = false
  | .filters ids => ids ≠ []
  | .script s => Text.blank s = false

theorem validate_eq_ok_iff {c : ListContent} : c.validate = .ok () ↔ c.Sound := by
  cases c with
  | form spec =>
    have hcompile : (ListContent.form spec).validate = .ok () ↔ ∃ f, spec.compile = .ok f := by
      unfold validate
      rw [bind_eq_ok_iff]
      exact exists_congr fun f => by rw [mapError_eq_ok_iff]; exact and_iff_left rfl
    rw [hcompile, Sound]
    refine ⟨fun h => ⟨h, ?_⟩, fun h => h.1⟩
    obtain ⟨f, hf⟩ := h
    have hvoltages := FilterSpec.validate_eq_ok_iff.1 (FilterSpec.compile_eq_ok_iff.1 hf).1
    simpa only [VoltageFilter.validate_eq_ok_iff] using hvoltages
  | identifiers groups =>
    simp only [validate, Sound]
    split <;> simp_all
  | filters ids => cases ids <;> simp [validate, Sound]
  | script s =>
    simp only [validate, Sound]
    split <;> simp_all

end ListContent

/-! ## Scripts of forms -/

namespace Filter.FilterSpec

/-- A script opens with a loop over a collection. -/
theorem script_not_blank (collection : String) (cs : List Condition) :
    Text.blank (script collection cs) = false := by
  have hlead : "for (equipment in network.".toList = 'f' :: "or (equipment in network.".toList := by
    decide
  have hf : Text.isBlank 'f' = false := by decide
  rw [Text.blank, script, String.toList_ofList]
  unfold scriptChars
  rw [hlead]
  simp only [List.cons_append, List.all_cons, hf, Bool.false_and]

theorem script_sound {s : FilterSpec} {script : String} (h : s.toScript = .ok script) :
    (ListContent.script script).Sound := by
  obtain ⟨f, -, rfl⟩ := map_eq_ok_iff.1 h
  exact script_not_blank _ _

end Filter.FilterSpec

/-! ## The invariant -/

namespace Store

/-- Every stored list has a content that passes its check. -/
def Valid (s : Store) : Prop := ∀ id l, s.get? id = some l → l.content.validate = .ok ()

theorem Valid.put {s : Store} (h : s.Valid) {l : OutageList} (hl : l.content.validate = .ok ()) :
    (s.put l).Valid :=
  forall_get?_put h hl

theorem Valid.erase {s : Store} (h : s.Valid) (id : Uuid) : (s.erase id).Valid :=
  forall_get?_erase h id

theorem valid_ofLists {ls : List OutageList} (h : ∀ l ∈ ls, l.content.validate = .ok ()) :
    (ofLists ls).Valid :=
  forall_get?_ofLists h

end Store

namespace OutageList.Call

theorem run_create_valid {s : Store} (h : s.Valid) (fresh : Uuid) (now : Instant) (name : String)
    (content : ListContent) : ((OutageList.create fresh now name content).run s).2.Valid := by
  rw [run_create]
  split
  · exact h
  · exact h
  · next hc _ => exact h.put hc

theorem run_update_valid {s : Store} (h : s.Valid) (now : Instant) (id : Uuid) (name : String)
    (content : ListContent) : ((OutageList.update now id name content).run s).2.Valid := by
  rw [run_update]
  split
  · exact h
  · next hc _ => exact h.put hc
  · exact h

section

variable [PatternEngine]

/-- A call keeps the invariant, whatever it is given. -/
theorem run_valid (c : Call) {s : Store} (h : s.Valid) : (c.run s).2.Valid := by
  cases c with
  | create fresh now name content => exact run_create_valid h fresh now name content
  | update now id name content => exact run_update_valid h now id name content
  | delete id =>
    change ((OutageList.delete id).run s).2.Valid
    rw [run_delete]
    split
    · exact h.erase id
    · exact h
  | duplicate fresh now id =>
    change ((OutageList.duplicate fresh now id).run s).2.Valid
    rw [run_duplicate]
    split
    · exact h
    · exact h
    · next l hl _ => exact h.put (h id l hl)
  | newScript fresh now id name =>
    change ((OutageList.newScript fresh now id name).run s).2.Valid
    rw [run_newScript]
    split
    · exact h
    · exact run_create_valid h _ _ _ _
  | replaceWithScript now id =>
    change ((OutageList.replaceWithScript now id).run s).2.Valid
    rw [run_replaceWithScript]
    split
    · exact h
    · exact h
    · exact run_update_valid h _ _ _ _
  | get id => exact (readOnly_get id s).symm ▸ h
  | list => exact h
  | scriptOf id => exact (readOnly_scriptOf id s).symm ▸ h
  | exported net source id => exact (congrArg Prod.snd (run_export? net source id s)).symm ▸ h
  | count net source id => exact (congrArg Prod.snd (run_count net source id s)).symm ▸ h

theorem runAll_valid (calls : List Call) {s : Store} (h : s.Valid) : (runAll calls s).Valid :=
  runAll_preserves (fun c _ _ hs => c.run_valid hs) h

end

end OutageList.Call

/-! ## Scripts -/

namespace OutageList

/-- A stored form can be turned into its script in both ways, and the script passes for a content.
Only an identifier that is in use keeps a new list from being made. -/
structure Converts (s : Store) (id : Uuid) (name script : String) : Prop where
  valid : (ListContent.script script).validate = .ok ()
  inPlace : ∀ now, (replaceWithScript now id).run s =
    (.ok ⟨id, name, now, .script script⟩, s.put ⟨id, name, now, .script script⟩)
  asNew : ∀ fresh now title, s.get? fresh = none → (newScript fresh now id title).run s =
    (.ok ⟨fresh, title, now, .script script⟩, s.put ⟨fresh, title, now, .script script⟩)
  refused : ∀ fresh now title old, s.get? fresh = some old →
    (newScript fresh now id title).run s = (.error (.list (.alreadyExists fresh)), s)

/-- What asking for scripts comes to. It fails where there is no list, and of a list whose kind has
no script; a form can be converted to the script that it answers with. -/
structure ScriptsAtHand (s : Store) : Prop where
  error : ∀ id e, ((scriptOf id).run s).1 = .error e →
    (s.get? id = none ∧ e = .list (.unknown id) ∧ e.kind = .notFound) ∨
      ∃ l, s.get? id = some l ∧ (l.kind = .identifiers ∨ l.kind = .filters) ∧
        e = .list (.noScriptForm id l.kind) ∧ e.kind = .configuration
  form : ∀ id l, s.get? id = some l → l.kind = .form →
    ∃ script, (scriptOf id).run s = (.ok script, s) ∧ Converts s id l.name script

section

variable {s : Store} {id : Uuid} {l : OutageList} (hl : s.get? id = some l)

include hl

theorem found_of_get? : found s id = .ok l := by rw [found, hl]

theorem scriptOfForm_eq {spec : FilterSpec} (hc : l.content = .form spec) :
    scriptOfForm s id = spec.toScript.mapError .rejected := by
  rw [scriptOfForm, found_of_get? hl]
  dsimp only [Except.bind]
  rw [hc]

theorem run_scriptOf_of_form {spec : FilterSpec} {script : String} (hc : l.content = .form spec)
    (hscript : spec.toScript = .ok script) : (scriptOf id).run s = (.ok script, s) := by
  rw [run_scriptOf, scriptAt, found_of_get? hl]
  dsimp only [Except.bind]
  rw [hc]
  dsimp only
  rw [hscript]
  rfl

theorem converts_of_form {spec : FilterSpec} {script : String} (hc : l.content = .form spec)
    (hscript : spec.toScript = .ok script) : Converts s id l.name script := by
  have hvalid := ListContent.validate_eq_ok_iff.2 (FilterSpec.script_sound hscript)
  have hform : scriptOfForm s id = .ok script := by
    rw [scriptOfForm_eq hl hc, hscript]
    rfl
  refine ⟨hvalid, fun now => ?_, fun fresh now title hfree => ?_, fun fresh now title old hused => ?_⟩
  · rw [run_replaceWithScript, hform, found_of_get? hl]
    dsimp only
    rw [run_update, hvalid, hl]
  · rw [run_newScript, hform]
    dsimp only
    rw [run_create, hvalid, hfree]
  · rw [run_newScript, hform]
    dsimp only
    rw [run_create, hvalid, hused]

end

theorem exists_script_of_valid {spec : FilterSpec}
    (h : (ListContent.form spec).validate = .ok ()) : ∃ script, spec.toScript = .ok script := by
  obtain ⟨⟨f, hf⟩, -⟩ := ListContent.validate_eq_ok_iff.1 h
  exact ⟨f.toScript, map_eq_ok_iff.2 ⟨f, hf, rfl⟩⟩

theorem scriptsAtHand_of_valid {s : Store} (h : s.Valid) : ScriptsAtHand s := by
  refine ⟨fun id e he => ?_, fun id l hl hk => ?_⟩
  · rw [run_scriptOf] at he
    cases hl : s.get? id with
    | none =>
      rw [scriptAt, found, hl] at he
      obtain rfl := Except.error.inj he
      exact .inl ⟨rfl, rfl, rfl⟩
    | some l =>
      refine .inr ⟨l, rfl, ?_⟩
      rw [scriptAt, found_of_get? hl] at he
      dsimp only [Except.bind] at he
      unfold kind
      cases hc : l.content with
      | form spec =>
        -- The filter of a valid form compiles, so it has a script.
        obtain ⟨script, hscript⟩ := exists_script_of_valid (hc ▸ h id l hl)
        rw [hc] at he
        dsimp only at he
        rw [hscript] at he
        cases he
      | script text =>
        rw [hc] at he
        cases he
      | identifiers groups =>
        rw [hc] at he
        obtain rfl := Except.error.inj he
        exact ⟨.inl rfl, rfl, rfl⟩
      | filters ids =>
        rw [hc] at he
        obtain rfl := Except.error.inj he
        exact ⟨.inr rfl, rfl, rfl⟩
  · obtain ⟨spec, hc⟩ : ∃ spec, l.content = .form spec := by
      unfold kind at hk
      cases hc : l.content with
      | form spec => exact ⟨spec, rfl⟩
      | _ => rw [hc] at hk; cases hk
    obtain ⟨script, hscript⟩ := exists_script_of_valid (hc ▸ h id l hl)
    exact ⟨script, run_scriptOf_of_form hl hc hscript, converts_of_form hl hc hscript⟩

namespace Call

/-- Where all lists are valid, they are after every run of calls, whatever the calls are given: each
makes sense, and what has a script answers with it and is converted to it without fail. -/
theorem runAll_only_sound [PatternEngine] {s : Store}
    (h : ∀ id l, s.get? id = some l → l.content.validate = .ok ()) (calls : List Call) :
    (∀ id l, (runAll calls s).get? id = some l →
      l.content.validate = .ok () ∧ l.content.Sound) ∧
    ScriptsAtHand (runAll calls s) := by
  have hvalid := runAll_valid calls h
  refine ⟨fun id l hl => ⟨hvalid id l hl, ?_⟩, scriptsAtHand_of_valid hvalid⟩
  exact ListContent.validate_eq_ok_iff.1 (hvalid id l hl)

/-- Generators from 63 to 90 kilovolts. -/
def generators : OutageList where
  id := .ofNat 1
  name := "generators"
  modified := default
  content := .form { type := .generator, voltage1 := some (.range (.ofInt 63) (.ofInt 90)) }

/-- The form is copied, changed to a group without a name, and its copy is converted. -/
def handling : List Call :=
  [.duplicate (.ofNat 8) ⟨60, 0⟩ (.ofNat 1),
    .update ⟨61, 0⟩ (.ofNat 1) "generators" (.identifiers [⟨" ", []⟩]),
    .replaceWithScript ⟨62, 0⟩ (.ofNat 8)]

theorem runAll_only_sound_handling :
    (∀ id l, (Store.ofLists [generators, pair]).get? id = some l →
      l.content.validate = .ok ()) ∧
    (∀ id l, (runAll handling (.ofLists [generators, pair])).get? id = some l →
      l.content.validate = .ok () ∧ l.content.Sound) ∧
    ScriptsAtHand (runAll handling (.ofLists [generators, pair])) := by
  have hvalid : (Store.ofLists [generators, pair]).Valid := by
    refine Store.valid_ofLists ?_
    simp only [List.forall_mem_cons]
    exact ⟨by decide +kernel, by decide +kernel, List.forall_mem_nil _⟩
  exact ⟨hvalid, runAll_only_sound hvalid handling⟩

end Call

end OutageList

end GridOutage
