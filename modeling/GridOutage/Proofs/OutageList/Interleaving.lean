import GridOutage.Proofs.OutageList.Calls
import GridOutage.Proofs.OutageList.Validity

/-!
# Calls that share a store

Two calls run against one store at the same time, their store operations alternating in any way. All
calls that change a list read first and make their one change last (`Program.ChangesLast`), so of two
of them one always runs as a whole, and all that can happen to the other is that it has read the
store before that and continues after it (`Program.interleave_eq`).

For updating and deleting this makes no difference, as they read nothing. The conversion of a form
reads the form, reads its name and writes the script, and a change between may go unnoticed:

* `interleave_inTurn_or_overtaken`: two changes of one list come to what they come to one after the
  other, unless a conversion is `Overtaken`: it wrote the script of the form that it had read over a
  list that was put in the form's place since.
* `interleave_overtaken`: every update of a form can be lost so, and `correction_overwritten` is a run
  where neither order of the two calls would have lost it.
-/
namespace GridOutage

/-! ## Programs in turns -/

inductive Turn where
  | first | second
  deriving DecidableEq, Repr

/-- What two programs on one store come to: their results and the store after them. -/
structure Joint (α β : Type) where
  first : α
  second : β
  store : Store

/-- The same with the programs in the other order. -/
def Joint.swap {α β : Type} (r : Joint α β) : Joint β α := ⟨r.second, r.first, r.store⟩

namespace Program

variable {α β : Type}

/-- One program after the other. -/
def inTurn (p : Program α) (q : Program β) (s : Store) : Joint α β :=
  ⟨(p.run s).1, (q.run (p.run s).2).1, (q.run (p.run s).2).2⟩

/-- Two programs whose store operations follow one another as a list of turns says. What is left
when the list ends is run in turn. -/
def interleave : List Turn → Program α → Program β → Store → Joint α β
  | [], p, q, s => inTurn p q s
  | .first :: turns, p, q, s => interleave turns (p.step s).1 q (p.step s).2
  | .second :: turns, p, q, s => interleave turns p (q.step s).1 (q.step s).2

theorem run_step (p : Program α) (s : Store) : (p.step s).1.run (p.step s).2 = p.run s := by
  cases p with
  | insert l next =>
    simp only [step, run]
    split <;> rfl
  | _ => rfl

theorem interleave_done_left (turns : List Turn) (a : α) (q : Program β) (s : Store) :
    interleave turns (.done a) q s = ⟨a, (q.run s).1, (q.run s).2⟩ := by
  induction turns generalizing q s with
  | nil => rfl
  | cons turn turns ih =>
    cases turn with
    | first => exact ih q s
    | second => rw [interleave, ih, run_step]

theorem interleave_done_right (turns : List Turn) (p : Program α) (b : β) (s : Store) :
    interleave turns p (.done b) s = ⟨(p.run s).1, b, (p.run s).2⟩ := by
  induction turns generalizing p s with
  | nil => rfl
  | cons turn turns ih =>
    cases turn with
    | first => rw [interleave, ih, run_step]
    | second => exact ih p s

/-! ## Programs that change the store last -/

/-- A program that only reads, but for its last store operation. -/
inductive ChangesLast : Program α → Prop
  | done (a : α) : ChangesLast (.done a)
  | get {id : Uuid} {next : Option OutageList → Program α} (h : ∀ r, ChangesLast (next r)) :
      ChangesLast (.get id next)
  | list {next : List OutageList → Program α} (h : ∀ r, ChangesLast (next r)) :
      ChangesLast (.list next)
  | insert {l : OutageList} {next : Except OutageList.Fault Unit → Program α}
      (h : ∀ r, ∃ a, next r = .done a) : ChangesLast (.insert l next)
  | replace {l : OutageList} {next : Option OutageList → Program α}
      (h : ∀ r, ∃ a, next r = .done a) : ChangesLast (.replace l next)
  | delete {id : Uuid} {next : Option OutageList → Program α}
      (h : ∀ r, ∃ a, next r = .done a) : ChangesLast (.delete id next)

/-- The second program is what is left of the first after it has read the store for a while. -/
inductive ReadsTo (s : Store) : Program α → Program α → Prop
  | refl (p : Program α) : ReadsTo s p p
  | get {id : Uuid} {next : Option OutageList → Program α} {p : Program α}
      (h : ReadsTo s (next (s.get? id)) p) : ReadsTo s (.get id next) p
  | list {next : List OutageList → Program α} {p : Program α} (h : ReadsTo s (next s.list) p) :
      ReadsTo s (.list next) p

theorem ReadsTo.trans {s : Store} {p q r : Program α} (h : ReadsTo s p q) (h' : ReadsTo s q r) :
    ReadsTo s p r := by
  induction h with
  | refl p => exact h'
  | get _ ih => exact .get (ih h')
  | list _ ih => exact .list (ih h')

/-- On the store that was read, the rest comes to what the whole program comes to. -/
theorem ReadsTo.run_eq {s : Store} {p q : Program α} (h : ReadsTo s p q) : q.run s = p.run s := by
  induction h with
  | refl p => rfl
  | get _ ih => exact ih
  | list _ ih => exact ih

/-- A step of such a program is a read, or it was its last. -/
theorem ChangesLast.step {p : Program α} (h : p.ChangesLast) (s : Store) :
    (∃ a after, p.step s = (.done a, after) ∧ p.run s = (a, after)) ∨
      ∃ q, p.step s = (q, s) ∧ q.ChangesLast ∧ ReadsTo s p q := by
  cases h with
  | done a => exact .inl ⟨a, s, rfl, rfl⟩
  | get h => exact .inr ⟨_, rfl, h _, .get (.refl _)⟩
  | list h => exact .inr ⟨_, rfl, h _, .list (.refl _)⟩
  | @insert l next h =>
    left
    simp only [Program.step, run]
    split
    · next after hi =>
      obtain ⟨a, ha⟩ := h (.ok ())
      exact ⟨a, after, by rw [ha], by rw [ha]; rfl⟩
    · next e hi =>
      obtain ⟨a, ha⟩ := h (.error e)
      exact ⟨a, s, by rw [ha], by rw [ha]; rfl⟩
  | @replace l next h =>
    obtain ⟨a, ha⟩ := h (s.replace l).1
    exact .inl ⟨a, (s.replace l).2, by rw [Program.step, ha], by rw [run, ha]; rfl⟩
  | @delete id next h =>
    obtain ⟨a, ha⟩ := h (s.delete id).1
    exact .inl ⟨a, (s.delete id).2, by rw [Program.step, ha], by rw [run, ha]; rfl⟩

/-- Of two programs that change the store last, the one that changes it first runs as a whole. All
that the other can have done by then is to read. -/
theorem interleave_eq {p : Program α} {q : Program β} (hp : p.ChangesLast) (hq : q.ChangesLast)
    (turns : List Turn) (s : Store) :
    (∃ q', ReadsTo s q q' ∧ interleave turns p q s = inTurn p q' s) ∨
      ∃ p', ReadsTo s p p' ∧ interleave turns p q s = (inTurn q p' s).swap := by
  induction turns generalizing p q with
  | nil => exact .inl ⟨q, .refl q, rfl⟩
  | cons turn turns ih =>
    cases turn with
    | first =>
      rw [interleave]
      rcases hp.step s with ⟨a, after, hstep, hrun⟩ | ⟨p₁, hstep, hp₁, hreads⟩
      · refine .inl ⟨q, .refl q, ?_⟩
        rw [hstep, interleave_done_left, inTurn, hrun]
      · rw [hstep]
        rcases ih hp₁ hq with ⟨q', hq', h⟩ | ⟨p', hp', h⟩
        · exact .inl ⟨q', hq', by rw [h, inTurn, inTurn, hreads.run_eq]⟩
        · exact .inr ⟨p', hreads.trans hp', h⟩
    | second =>
      rw [interleave]
      rcases hq.step s with ⟨b, after, hstep, hrun⟩ | ⟨q₁, hstep, hq₁, hreads⟩
      · refine .inr ⟨p, .refl p, ?_⟩
        rw [hstep, interleave_done_right, inTurn, hrun]
        rfl
      · rw [hstep]
        rcases ih hp hq₁ with ⟨q', hq', h⟩ | ⟨p', hp', h⟩
        · exact .inl ⟨q', hreads.trans hq', h⟩
        · exact .inr ⟨p', hp', by rw [h, inTurn, inTurn, hreads.run_eq]⟩

end Program

namespace OutageList

open Program
open GridOutage.Filter (FilterSpec)

/-! ## Changes of one list -/

/-- A change of a list that is stored already. -/
inductive Change where
  | update (now : Instant) (name : String) (content : ListContent)
  | delete
  | replaceWithScript (now : Instant)

/-- The call that makes the change of the list of an identifier. -/
def Change.call (id : Uuid) : Change → Call
  | .update now name content => .update now id name content
  | .delete => .delete id
  | .replaceWithScript now => .replaceWithScript now id

section

variable [PatternEngine]

/-- The store operations of a call. -/
abbrev Call.program (c : Call) : Program (Except Error c.Answer) := ExceptT.run c.operation

theorem update_program (now : Instant) (id : Uuid) (name : String) (content : ListContent) :
    (Call.update now id name content).program = match content.validate with
      | .error e => .done (.error e)
      | .ok () => .replace ⟨id, name, now, content⟩ fun old => .done (match old with
        | some _ => .ok ⟨id, name, now, content⟩
        | none => .error (.list (.unknown id))) := by
  change ExceptT.run (OutageList.update now id name content) = _
  unfold OutageList.update
  cases content.validate with
  | error e => rfl
  | ok =>
    change Program.replace _ _ = _
    refine congrArg _ (funext fun old => ?_)
    cases old <;> rfl

theorem delete_program (id : Uuid) :
    (Call.delete id).program = .delete id fun old => .done (match old with
      | some _ => .ok ()
      | none => .error (.list (.unknown id))) := by
  change Program.delete _ _ = _
  refine congrArg _ (funext fun old => ?_)
  cases old <;> rfl

/-! ### The conversion of a form -/

/-- What a conversion that has its script still has to do. -/
def nameAndWrite (now : Instant) (id : Uuid) (script : String) : Operation OutageList := do
  let l ← get id
  update now id l.name (.script script)

/-- How a conversion goes on from what it finds. -/
def afterForm (now : Instant) (id : Uuid) : Option OutageList → Program (Except Error OutageList)
  | none => .done (.error (.list (.unknown id)))
  | some l => match l.content with
    | .form spec => match spec.toScript with
      | .ok script => ExceptT.run (nameAndWrite now id script)
      | .error why => .done (.error (.rejected why))
    | content => .done (.error (.list (.notAForm id content.kind)))

theorem nameAndWrite_program (now : Instant) (id : Uuid) (script : String) :
    ExceptT.run (nameAndWrite now id script) = .get id fun
      | none => .done (.error (.list (.unknown id)))
      | some l => (Call.update now id l.name (.script script)).program := by
  change Program.get id _ = _
  refine congrArg _ (funext fun l => ?_)
  cases l <;> rfl

theorem replaceWithScript_program (now : Instant) (id : Uuid) :
    (Call.replaceWithScript now id).program = .get id (afterForm now id) := by
  change Program.get id _ = _
  refine congrArg _ (funext fun l => ?_)
  cases l with
  | none => rfl
  | some l =>
    obtain ⟨_, name, modified, content⟩ := l
    cases content with
    | form spec =>
      change Program.bind (ExceptT.run (specScript spec)) _ = _
      unfold specScript afterForm
      dsimp only
      cases spec.toScript <;> rfl
    | _ => rfl

theorem changesLast_update (now : Instant) (id : Uuid) (name : String) (content : ListContent) :
    (Call.update now id name content).program.ChangesLast := by
  rw [update_program]
  split
  · exact .done _
  · exact .replace fun old => ⟨_, rfl⟩

theorem changesLast_replaceWithScript (now : Instant) (id : Uuid) :
    (Call.replaceWithScript now id).program.ChangesLast := by
  rw [replaceWithScript_program]
  refine .get fun old => ?_
  unfold afterForm
  split
  · exact .done _
  · split
    · split
      · rw [nameAndWrite_program]
        refine .get fun l => ?_
        cases l with
        | none => exact .done _
        | some l => exact changesLast_update _ _ _ _
      · exact .done _
    · exact .done _

theorem Change.changesLast (id : Uuid) (c : Change) : (c.call id).program.ChangesLast := by
  cases c with
  | update now name content => exact changesLast_update now id name content
  | delete =>
    change (Call.delete id).program.ChangesLast
    rw [delete_program]
    exact .delete fun old => ⟨_, rfl⟩
  | replaceWithScript now => exact changesLast_replaceWithScript now id

/-! ### What may have been read -/

theorem readsTo_update {s : Store} {now : Instant} {id : Uuid} {name : String}
    {content : ListContent} {p : Program (Except Error OutageList)}
    (h : ReadsTo s (Call.update now id name content).program p) :
    p = (Call.update now id name content).program := by
  rw [update_program] at h ⊢
  cases hc : content.validate with
  | error e =>
    rw [hc] at h
    cases h
    rfl
  | ok =>
    rw [hc] at h
    cases h
    rfl

theorem readsTo_delete {s : Store} {id : Uuid} {p : Program (Except Error Unit)}
    (h : ReadsTo s (Call.delete id).program p) : p = (Call.delete id).program := by
  rw [delete_program] at h ⊢
  cases h
  rfl

/-- A conversion that has read the store has not begun, is at its end, or holds the script of the
form that it found, and perhaps its name. -/
theorem readsTo_replaceWithScript {s : Store} {now : Instant} {id : Uuid}
    {p : Program (Except Error OutageList)}
    (h : ReadsTo s (Call.replaceWithScript now id).program p) :
    p = (Call.replaceWithScript now id).program ∨ (∃ r, p = .done r) ∨
      ∃ old spec script, s.get? id = some old ∧ old.content = .form spec ∧
        spec.toScript = .ok script ∧ (p = ExceptT.run (nameAndWrite now id script) ∨
          p = (Call.update now id old.name (.script script)).program) := by
  rw [replaceWithScript_program] at h ⊢
  cases h with
  | refl => exact .inl rfl
  | get h =>
    right
    unfold afterForm at h
    split at h
    · cases h
      exact .inl ⟨_, rfl⟩
    · next old hold =>
      split at h
      · next spec hform =>
        split at h
        · next script hscript =>
          refine .inr ⟨old, spec, script, hold, hform, hscript, ?_⟩
          rw [nameAndWrite_program] at h ⊢
          cases h with
          | refl => exact .inl rfl
          | get h =>
            rw [hold] at h
            exact .inr (readsTo_update h)
        · cases h
          exact .inl ⟨_, rfl⟩
      · cases h
        exact .inl ⟨_, rfl⟩

end

/-! ## Overtaken conversions -/

/-- A conversion that was overtaken. It read a form, another call changed the list, and then the
script of what had been read was written over the change. Both calls succeed, and the name is that of
the form or that of the change. -/
inductive Overtaken [PatternEngine] (id : Uuid) (s : Store) : (c d : Change) →
    Joint (Except Error (c.call id).Answer) (Except Error (d.call id).Answer) → Prop
  | intro {now : Instant} {d : Change} {answer : (d.call id).Answer} {old l : OutageList}
      {spec : FilterSpec} {script name : String} {mid : Store} (hold : s.get? id = some old)
      (hform : old.content = .form spec) (hscript : spec.toScript = .ok script)
      (hother : (d.call id).run s = (.ok answer, mid)) (hl : mid.get? id = some l)
      (hname : name = old.name ∨ name = l.name) :
      Overtaken id s (.replaceWithScript now) d
        ⟨.ok (⟨id, name, now, .script script⟩ : OutageList), .ok answer,
          mid.put ⟨id, name, now, .script script⟩⟩

section

variable {s : Store} {id : Uuid} (hs : s.get? id = none)

include hs

theorem run_replaceWithScript_of_absent (now : Instant) :
    (replaceWithScript now id).run s = (.error (.list (.unknown id)), s) := by
  rw [run_replaceWithScript, scriptOfForm, found, hs]
  rfl

theorem run_nameAndWrite_of_absent (now : Instant) (script : String) :
    (nameAndWrite now id script).run s = (.error (.list (.unknown id)), s) := by
  rw [nameAndWrite, Operation.run_bind, run_get, found, hs]

theorem run_update_of_absent (now : Instant) (name : String) {content : ListContent}
    (hc : content.validate = .ok ()) :
    (update now id name content).run s = (.error (.list (.unknown id)), s) := by
  rw [run_update, hc, hs]

end

section

variable {s : Store} {id : Uuid} {l : OutageList} (hl : s.get? id = some l)

include hl

theorem run_update_of_stored (now : Instant) (name : String) {content : ListContent}
    (hc : content.validate = .ok ()) :
    (update now id name content).run s =
      (.ok ⟨id, name, now, content⟩, s.put ⟨id, name, now, content⟩) := by
  rw [run_update, hc, hl]

theorem run_nameAndWrite_of_stored (now : Instant) {script : String}
    (hc : (ListContent.script script).validate = .ok ()) :
    (nameAndWrite now id script).run s =
      (.ok ⟨id, l.name, now, .script script⟩, s.put ⟨id, l.name, now, .script script⟩) := by
  rw [nameAndWrite, Operation.run_bind, run_get, found, hl]
  exact run_update_of_stored hl now l.name hc

end

section

variable [PatternEngine]

/-- A conversion that goes on after another change comes to what it comes to before or after that
change, or it was overtaken. -/
theorem inTurn_of_conversion {s : Store} {id : Uuid} (d : Change) {now : Instant}
    {p : Program (Except Error OutageList)}
    (h : ReadsTo s (Call.replaceWithScript now id).program p) :
    inTurn (d.call id).program p s =
        inTurn (d.call id).program (Call.replaceWithScript now id).program s ∨
      (inTurn (d.call id).program p s).swap =
        inTurn (Call.replaceWithScript now id).program (d.call id).program s ∨
      Overtaken id s (.replaceWithScript now) d (inTurn (d.call id).program p s).swap := by
  rcases readsTo_replaceWithScript h with rfl | ⟨r, rfl⟩ | ⟨old, spec, script, hold, hform, hscript, hp⟩
  · exact .inl rfl
  · -- It has failed already, and a conversion that fails leaves the store as it was.
    refine .inr (.inl ?_)
    rw [inTurn, inTurn, ← h.run_eq]
    rfl
  have hvalid := ListContent.validate_eq_ok_iff.2 (FilterSpec.script_sound hscript)
  have hatomic := (d.call id).run_atomic s
  rcases hd : (d.call id).run s with ⟨e | answer, mid⟩
  · -- The other call failed, so nothing has changed since the store was read.
    rw [hd] at hatomic
    obtain rfl : mid = s := hatomic
    refine .inl ?_
    rw [inTurn, inTurn, show Program.run (d.call id).program mid = (.error e, mid) from hd, h.run_eq]
  have hrun : Program.run (d.call id).program s = (.ok answer, mid) := hd
  cases hl : mid.get? id with
  | none =>
    -- The list is gone, which the conversion notices wherever it goes on.
    have hgone : p.run mid = (.error (.list (.unknown id)), mid) := by
      rcases hp with rfl | rfl
      · exact run_nameAndWrite_of_absent hl now script
      · exact run_update_of_absent hl now old.name hvalid
    have hconversion : Program.run (Call.replaceWithScript now id).program mid =
        (.error (.list (.unknown id)), mid) := run_replaceWithScript_of_absent hl now
    refine .inl ?_
    rw [inTurn, inTurn, hrun, hgone, hconversion]
  | some l =>
    obtain ⟨name, hname, hwritten⟩ : ∃ name, (name = old.name ∨ name = l.name) ∧
        p.run mid =
          (.ok ⟨id, name, now, .script script⟩, mid.put ⟨id, name, now, .script script⟩) := by
      rcases hp with rfl | rfl
      · exact ⟨l.name, .inr rfl, run_nameAndWrite_of_stored hl now hvalid⟩
      · exact ⟨old.name, .inl rfl, run_update_of_stored hl now old.name hvalid⟩
    refine .inr (.inr ?_)
    rw [inTurn, hrun, hwritten]
    exact .intro hold hform hscript hd hl hname

theorem inTurn_of_change {s : Store} {id : Uuid} (c d : Change)
    {p : Program (Except Error (c.call id).Answer)} (h : ReadsTo s (c.call id).program p) :
    inTurn (d.call id).program p s = inTurn (d.call id).program (c.call id).program s ∨
      (inTurn (d.call id).program p s).swap = inTurn (c.call id).program (d.call id).program s ∨
      Overtaken id s c d (inTurn (d.call id).program p s).swap := by
  cases c with
  | update now name content =>
    obtain rfl := readsTo_update h
    exact .inl rfl
  | delete =>
    obtain rfl := readsTo_delete h
    exact .inl rfl
  | replaceWithScript now => exact inTurn_of_conversion d h

/-- Two changes of one list whose store operations alternate in any way come to what they come to
one after the other, in one of the two orders, unless one of them is a conversion that was
overtaken. -/
theorem interleave_inTurn_or_overtaken (id : Uuid) (c d : Change) (turns : List Turn) (s : Store) :
    interleave turns (c.call id).program (d.call id).program s =
        inTurn (c.call id).program (d.call id).program s ∨
      interleave turns (c.call id).program (d.call id).program s =
        (inTurn (d.call id).program (c.call id).program s).swap ∨
      Overtaken id s c d (interleave turns (c.call id).program (d.call id).program s) ∨
      Overtaken id s d c (interleave turns (c.call id).program (d.call id).program s).swap := by
  rcases interleave_eq (c.changesLast id) (d.changesLast id) turns s with ⟨q, hq, h⟩ | ⟨p, hp, h⟩
  · rw [h]
    rcases inTurn_of_change d c hq with h | h | h
    · exact .inl h
    · exact .inr (.inl (congrArg Joint.swap h))
    · exact .inr (.inr (.inr h))
  · rw [h]
    rcases inTurn_of_change c d hp with h | h | h
    · exact .inr (.inl (congrArg Joint.swap h))
    · exact .inl h
    · exact .inr (.inr (.inl h))

end

/-! ## Lost updates -/

section

variable [PatternEngine]
variable {s : Store} {id : Uuid} {old : OutageList} {spec : FilterSpec} {script : String}
  (hold : s.get? id = some old) (now later : Instant) (name : String)
  {content : ListContent} (hc : content.validate = .ok ())

include hold hc

/-- After the conversion of a form and then an update, the list is as the update says. -/
theorem stored_conversion_update (hform : old.content = .form spec)
    (hscript : spec.toScript = .ok script) :
    (inTurn (Call.replaceWithScript now id).program
      (Call.update later id name content).program s).store.get? id =
        some ⟨id, name, later, content⟩ := by
  have hconverted : Program.run (Call.replaceWithScript now id).program s = _ :=
    (converts_of_form hold hform hscript).inPlace now
  have hstored : (s.put ⟨id, old.name, now, .script script⟩).get? id = some _ :=
    Store.get?_put_self _ _
  have hupdated : Program.run (Call.update later id name content).program
      (s.put ⟨id, old.name, now, .script script⟩) = _ := run_update_of_stored hstored later name hc
  rw [inTurn, hconverted, hupdated]
  exact Store.get?_put_self _ _

/-- So it is after an update that leaves no form, and then the conversion, which fails. -/
theorem stored_update_conversion (hkind : content.kind ≠ .form) :
    (inTurn (Call.update later id name content).program
      (Call.replaceWithScript now id).program s).store.get? id =
        some ⟨id, name, later, content⟩ := by
  have hupdated : Program.run (Call.update later id name content).program s = _ :=
    run_update_of_stored hold later name hc
  have hrefused : Program.run (Call.replaceWithScript now id).program
      (s.put ⟨id, name, later, content⟩) =
        (.error (.list (.notAForm id content.kind)), s.put ⟨id, name, later, content⟩) := by
    have hstored : (s.put ⟨id, name, later, content⟩).get? id = some _ := Store.get?_put_self _ _
    refine (run_replaceWithScript now id _).trans ?_
    rw [scriptOfForm, found_of_get? hstored]
    cases content with
    | form spec => exact absurd rfl hkind
    | _ => rfl
  rw [inTurn, hupdated, hrefused]
  exact Store.get?_put_self _ _

/-- An update that comes when a conversion has read a form and its name is lost altogether: both
calls succeed, and nothing of the update is left. -/
theorem interleave_overtaken (hform : old.content = .form spec)
    (hscript : spec.toScript = .ok script) :
    interleave [.first, .first, .second] (Call.replaceWithScript now id).program
        (Call.update later id name content).program s =
      ⟨.ok ⟨id, old.name, now, .script script⟩, .ok ⟨id, name, later, content⟩,
        (s.put ⟨id, name, later, content⟩).put ⟨id, old.name, now, .script script⟩⟩ := by
  have hvalid := ListContent.validate_eq_ok_iff.2 (FilterSpec.script_sound hscript)
  have hread : afterForm now id (s.get? id) = ExceptT.run (nameAndWrite now id script) := by
    rw [hold]
    unfold afterForm
    dsimp only
    rw [hform]
    dsimp only
    rw [hscript]
  have hstep : (Call.update later id name content).program.step s =
      (.done (.ok ⟨id, name, later, content⟩), s.put ⟨id, name, later, content⟩) := by
    rw [update_program, hc]
    simp only [step, Store.replace, hold]
  have hstored : (s.put ⟨id, name, later, content⟩).get? id = some _ := Store.get?_put_self _ _
  have hwritten : Program.run (Call.update now id old.name (.script script)).program
      (s.put ⟨id, name, later, content⟩) = _ := run_update_of_stored hstored now old.name hvalid
  rw [replaceWithScript_program, interleave]
  dsimp only [step]
  rw [hread, nameAndWrite_program, interleave]
  dsimp only [step]
  rw [hold, interleave, hstep, interleave_done_right, hwritten]

end

/-- Success, or the kind of the error. -/
def outcome {α : Type} : Except Error α → Option ErrorKind
  | .ok _ => none
  | .error e => some e.kind

/-- A list without the time of its last change. -/
def undated (l : OutageList) : Uuid × String × ListContent := (l.id, l.name, l.content)

/-- The same kinds of outcomes and the same lists, but for the times of their changes. -/
structure AlikeButDates {α β : Type} (r r' : Joint (Except Error α) (Except Error β)) : Prop where
  first : outcome r.first = outcome r'.first
  second : outcome r.second = outcome r'.second
  stored : ∀ id, (r.store.get? id).map undated = (r'.store.get? id).map undated

/-- The conversion of the generators. -/
def conversion : Call := .replaceWithScript ⟨62, 0⟩ (.ofNat 1)

/-- The generators changed to a pair of lines. -/
def correction : Call := .update ⟨61, 0⟩ (.ofNat 1) "pair" Call.pair.content

/-- The generators are converted while they are corrected. Both calls succeed and the correction is
lost, which it is in neither order of the two. -/
theorem correction_overwritten :
    ¬ (AlikeButDates
        (interleave [.first, .first, .second] conversion.program correction.program
          (.ofLists [Call.generators]))
        (inTurn conversion.program correction.program (.ofLists [Call.generators])) ∨
      AlikeButDates
        (interleave [.first, .first, .second] conversion.program correction.program
          (.ofLists [Call.generators]))
        (inTurn correction.program conversion.program (.ofLists [Call.generators])).swap) := by
  have hold : (Store.ofLists [Call.generators]).get? (.ofNat 1) = some Call.generators :=
    Store.get?_put_self .empty Call.generators
  have hpair : Call.pair.content.validate = .ok () := by decide
  have hgenerators : Call.generators.content.validate = .ok () := by decide +kernel
  obtain ⟨script, hscript⟩ := exists_script_of_valid hgenerators
  have hlost : interleave [.first, .first, .second] conversion.program correction.program
      (.ofLists [Call.generators]) = _ :=
    interleave_overtaken hold ⟨62, 0⟩ ⟨61, 0⟩ "pair" hpair rfl hscript
  have hconversion : (inTurn conversion.program correction.program
      (.ofLists [Call.generators])).store.get? (.ofNat 1) = _ :=
    stored_conversion_update hold ⟨62, 0⟩ ⟨61, 0⟩ "pair" hpair rfl hscript
  have hcorrection : (inTurn correction.program conversion.program
      (.ofLists [Call.generators])).swap.store.get? (.ofNat 1) = _ :=
    stored_update_conversion hold ⟨62, 0⟩ ⟨61, 0⟩ "pair" hpair (by decide)
  have hnames : Call.generators.name ≠ "pair" := by decide
  -- The script has the name of the generators, where the pair of lines is stored in either order.
  rintro (h | h)
  · have hstored := h.stored (.ofNat 1)
    rw [hlost, hconversion, Store.get?_put, if_pos rfl] at hstored
    exact hnames (congrArg (Prod.fst ∘ Prod.snd) (Option.some.inj hstored))
  · have hstored := h.stored (.ofNat 1)
    rw [hlost, hcorrection, Store.get?_put, if_pos rfl] at hstored
    exact hnames (congrArg (Prod.fst ∘ Prod.snd) (Option.some.inj hstored))

end OutageList

end GridOutage
