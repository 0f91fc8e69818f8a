import GridOutage.Proofs.OutageList.Validity

/-!
# A converted form keeps its script

A form answers with a script that is made when it is asked for; a script list answers with the one
that it holds. `conversion_keeps_script` relates the two: a form that is converted, in its place or
under a new identifier, answers after it with the script it answered with before.

The script stays what it is because `HoldsScript` is an invariant of the store. `run_holdsScript` is
the step lemma: a call that does not update or delete the list leaves it, for all other calls write
under identifiers that were free, or in the place of a list that is a form. `runAll_holdsScript`
carries it through runs of calls.
-/
namespace GridOutage

open GridOutage.Filter (FilterSpec)

/-! ## What stays where a list is added -/

theorem Store.Adds.kept {l l' : OutageList} {s after : Store} {id : Uuid} (h : Store.Adds l s after)
    (hl' : s.get? id = some l') : after.get? id = some l' := by
  have hne : id ≠ l.id := by
    rintro rfl
    rw [h.unused] at hl'
    cases hl'
  rw [h.others id hne, hl']

namespace OutageList

/-! ## Lists that hold a script -/

/-- A script list with a script is stored under an identifier. -/
def HoldsScript (s : Store) (id : Uuid) (script : String) : Prop :=
  ∃ l, s.get? id = some l ∧ l.content = .script script

namespace Call

/-- The calls that are given an identifier to change the list of, or to take it away. -/
def Rewrites (id : Uuid) : Call → Prop
  | .update _ other _ _ => other = id
  | .delete other => other = id
  | _ => False

end Call

section

variable {s : Store} {id : Uuid} {script : String}

theorem HoldsScript.run_scriptOf (h : HoldsScript s id script) :
    (scriptOf id).run s = (.ok script, s) := by
  obtain ⟨l, hl, hc⟩ := h
  rw [OutageList.run_scriptOf, scriptAt, found_of_get? hl]
  dsimp only [Except.bind]
  rw [hc]

theorem HoldsScript.scriptOfForm (h : HoldsScript s id script) :
    scriptOfForm s id = .error (.list (.notAForm id .script)) := by
  obtain ⟨l, hl, hc⟩ := h
  rw [OutageList.scriptOfForm, found_of_get? hl]
  dsimp only [Except.bind]
  rw [hc]
  rfl

theorem HoldsScript.run_replaceWithScript (h : HoldsScript s id script) (now : Instant) :
    (replaceWithScript now id).run s = (.error (.list (.notAForm id .script)), s) := by
  rw [OutageList.run_replaceWithScript, h.scriptOfForm]

namespace Call

section

variable [PatternEngine]

/-- One call leaves a script where it is, unless it is an update or a deletion of the list. -/
theorem run_holdsScript (h : HoldsScript s id script) {c : Call} (hc : ¬ c.Rewrites id) :
    HoldsScript (c.run s).2 id script := by
  have hatomic := c.run_atomic s
  rcases hr : c.run s with ⟨e | answer, after⟩
  · rw [hr] at hatomic
    obtain rfl : after = s := hatomic
    exact h
  · rw [hr] at hatomic
    have hdoes : c.Does answer s after := hatomic
    obtain ⟨l, hl, hcontent⟩ := h
    cases c with
    | create | duplicate | newScript => exact ⟨l, hdoes.2.kept hl, hcontent⟩
    | update now other name content =>
      obtain ⟨rfl, hreplaces⟩ := hdoes
      exact ⟨l, (hreplaces.others id (Ne.symm hc)).trans hl, hcontent⟩
    | delete other => exact ⟨l, (hdoes.others id (Ne.symm hc)).trans hl, hcontent⟩
    | replaceWithScript now other =>
      obtain ⟨⟨old, text, -, hform, rfl⟩, hreplaces⟩ := hdoes
      have hne : id ≠ other := by
        rintro rfl
        rw [HoldsScript.scriptOfForm ⟨l, hl, hcontent⟩] at hform
        cases hform
      exact ⟨l, (hreplaces.others id hne).trans hl, hcontent⟩
    | get | list | scriptOf | exported | count =>
      obtain rfl : after = s := hdoes
      exact ⟨l, hl, hcontent⟩

theorem runAll_holdsScript {calls : List Call} (h : HoldsScript s id script)
    (hcalls : ∀ c ∈ calls, ¬ c.Rewrites id) : HoldsScript (runAll calls s) id script :=
  runAll_preserves (P := fun s => HoldsScript s id script)
    (fun c hc _ hs => run_holdsScript hs (hcalls c hc)) h

end

end Call

end

/-! ## Converting -/

section

variable [PatternEngine]

/-- A list in a store answers with a script, from then on. It is not converted, and no run of calls
that does not update or delete it changes its script. -/
structure SettledScript (s : Store) (id : Uuid) (script : String) : Prop where
  answers : (scriptOf id).run s = (.ok script, s)
  refused : ∀ now, ∃ e, (replaceWithScript now id).run s = (.error e, s) ∧ e.kind = .configuration
  lasting : ∀ calls : List Call, (∀ c ∈ calls, ¬ c.Rewrites id) →
    (scriptOf id).run (Call.runAll calls s) = (.ok script, Call.runAll calls s)

/-- A form answers with a script, and so does what it is converted to. In its place it keeps its
identifier and its name; under a new identifier it is left as it was. -/
structure KeepsScript (s : Store) (form : OutageList) (script : String) : Prop where
  answers : (scriptOf form.id).run s = (.ok script, s)
  inPlace : ∀ now, ∃ after,
    (replaceWithScript now form.id).run s =
      (.ok { form with modified := now, content := .script script }, after) ∧
    Store.Replaces { form with modified := now, content := .script script } s after ∧
    SettledScript after form.id script
  asNew : ∀ fresh now title, s.get? fresh = none → ∃ after,
    (newScript fresh now form.id title).run s = (.ok ⟨fresh, title, now, .script script⟩, after) ∧
    Store.Adds ⟨fresh, title, now, .script script⟩ s after ∧ after.get? form.id = some form ∧
    (scriptOf form.id).run after = (.ok script, after) ∧ SettledScript after fresh script

theorem HoldsScript.settled {s : Store} {id : Uuid} {script : String} (h : HoldsScript s id script) :
    SettledScript s id script where
  answers := h.run_scriptOf
  refused := fun now => ⟨_, h.run_replaceWithScript now, rfl⟩
  lasting := fun _ hcalls => (Call.runAll_holdsScript h hcalls).run_scriptOf

theorem keepsScript_of_form {s : Store} {l : OutageList} {spec : FilterSpec} {script : String}
    (hl : s.get? l.id = some l) (hc : l.content = .form spec) (hscript : spec.toScript = .ok script) :
    KeepsScript s l script := by
  have hconverts := converts_of_form hl hc hscript
  refine ⟨run_scriptOf_of_form hl hc hscript, fun now => ?_, fun fresh now title hfree => ?_⟩
  · have hreplaces := Store.replaces_put (l := ⟨l.id, l.name, now, .script script⟩) hl
    exact ⟨_, hconverts.inPlace now, hreplaces, HoldsScript.settled ⟨_, hreplaces.stored, rfl⟩⟩
  · have hadds := Store.adds_put (l := ⟨fresh, title, now, .script script⟩) hfree
    have hkept := hadds.kept hl
    exact ⟨_, hconverts.asNew fresh now title hfree, hadds, hkept, run_scriptOf_of_form hkept hc hscript,
      HoldsScript.settled ⟨_, hadds.stored, rfl⟩⟩

end

namespace Call

/-- In every store that calls reach, a form with an accepted description is converted without fail,
in both ways, and what it is converted to answers with its script for as long as nothing updates or
deletes it. -/
theorem conversion_keeps_script [PatternEngine] (ls : List OutageList) (calls : List Call) {id : Uuid}
    {l : OutageList} {spec : FilterSpec} (hl : (runAll calls (Store.ofLists ls)).get? id = some l)
    (hc : l.content = .form spec) (hspec : spec.Accepted) :
    l.id = id ∧ ∃ script, spec.toScript = .ok script ∧
      KeepsScript (runAll calls (Store.ofLists ls)) l script := by
  have hid : l.id = id := runAll_keyed calls (Store.keyed_ofLists ls) id l hl
  subst hid
  exact ⟨rfl, _, hspec.toScript, keepsScript_of_form hl hc hspec.toScript⟩

/-- The filter of `generators`. -/
def generatorRange : FilterSpec :=
  FilterSpec.withVoltage1 { type := .generator } (.range (.ofInt 63) (.ofInt 90))

/-- The form is copied, and the pair is taken away. -/
def copying : List Call := [.duplicate (.ofNat 8) ⟨60, 0⟩ (.ofNat 1), .delete (.ofNat 7)]

/-- The store after that. -/
def copied : Store := runAll copying (.ofLists [generators, pair])

/-- The form and its copy are taken away too. -/
def clearing : List Call := [.delete (.ofNat 1), .delete (.ofNat 8)]

theorem conversion_keeps_script_generators :
    copied.get? (.ofNat 1) = some generators ∧ generators.content = .form generatorRange ∧
    generatorRange.Accepted ∧ copied.get? (.ofNat 9) = none ∧
    (∀ c ∈ clearing, ¬ c.Rewrites (.ofNat 9)) ∧
    ∃ script after, generatorRange.toScript = .ok script ∧ KeepsScript copied generators script ∧
      (newScript (.ofNat 9) ⟨63, 0⟩ (.ofNat 1) "script").run copied =
        (.ok ⟨.ofNat 9, "script", ⟨63, 0⟩, .script script⟩, after) ∧
      (scriptOf (.ofNat 9)).run (runAll clearing after) = (.ok script, runAll clearing after) := by
  have hstored : copied.get? (.ofNat 1) = some generators := by decide +kernel
  have hfree : copied.get? (.ofNat 9) = none := by decide +kernel
  have haccepted : generatorRange.Accepted := .withVoltage1 (.new .generator) (by decide +kernel)
  have hclearing : ∀ c ∈ clearing, ¬ c.Rewrites (.ofNat 9) := by
    simp only [clearing, List.forall_mem_cons, Rewrites]
    exact ⟨by decide, by decide, List.forall_mem_nil _⟩
  obtain ⟨-, script, hscript, hkeeps⟩ := conversion_keeps_script [generators, pair] copying hstored
    rfl haccepted
  obtain ⟨after, hrun, -, -, -, hsettled⟩ := hkeeps.asNew (.ofNat 9) ⟨63, 0⟩ "script" hfree
  exact ⟨hstored, rfl, haccepted, hfree, hclearing, script, after, hscript, hkeeps, hrun,
    hsettled.lasting clearing hclearing⟩

end Call

end OutageList

end GridOutage
