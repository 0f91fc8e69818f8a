import GridOutage.OutageList.Program
import GridOutage.Proofs.OutageList.Store

/-!
# Running operations

What each store operation answers and leaves, and how answers pass through a chain of operations.
With these, and the laws of a monad, an operation is run without opening the programs that it is
made of.

`run_keyed` holds of every program whatsoever, for a program reaches the store only through
changes that keep every list under its own identifier.
-/
namespace GridOutage

theorem Program.run_keyed {α : Type} (p : Program α) {s : Store} (h : s.Keyed) :
    (p.run s).2.Keyed := by
  induction p generalizing s with
  | done a => exact h
  | get id next ih => exact ih _ h
  | insert l next ih =>
    unfold run Store.insert
    split
    · next after hi =>
      split at hi
      · cases hi
      · obtain rfl := Except.ok.inj hi
        exact ih _ (h.put l)
    · exact ih _ h
  | replace l next ih =>
    refine ih _ ?_
    unfold Store.replace
    split
    · exact h.put l
    · exact h
  | delete id next ih => exact ih _ (h.erase id)
  | list next ih => exact ih _ h

/-! ## Programs as a monad -/

theorem Program.bind_done {α : Type} (p : Program α) : p.bind .done = p := by
  induction p with
  | done a => rfl
  | get id next ih => exact congrArg _ (funext ih)
  | insert l next ih => exact congrArg _ (funext ih)
  | replace l next ih => exact congrArg _ (funext ih)
  | delete id next ih => exact congrArg _ (funext ih)
  | list next ih => exact congrArg _ (funext ih)

theorem Program.bind_assoc {α β γ : Type} (p : Program α) (f : α → Program β) (g : β → Program γ) :
    (p.bind f).bind g = p.bind fun a => (f a).bind g := by
  induction p with
  | done a => rfl
  | get id next ih => exact congrArg _ (funext ih)
  | insert l next ih => exact congrArg _ (funext ih)
  | replace l next ih => exact congrArg _ (funext ih)
  | delete id next ih => exact congrArg _ (funext ih)
  | list next ih => exact congrArg _ (funext ih)

instance : LawfulMonad Program :=
  .mk' Program Program.bind_done (fun _ _ => rfl) Program.bind_assoc

namespace Operation

variable {α β : Type}

/-! ## Single operations -/

/-- A result that is there already, or its error. -/
@[simp] theorem run_lift (x : Except Error α) (s : Store) :
    (liftM x : Operation α).run s = (x, s) := rfl

@[simp] theorem run_get (id : Uuid) (s : Store) : (get id).run s = (.ok (s.get? id), s) := rfl

theorem run_insert (l : OutageList) (s : Store) :
    (insert l).run s = match s.insert l with
      | .ok after => (.ok (), after)
      | .error e => (.error (.list e), s) := by
  change Program.run (.insert l fun r => .done (r.mapError Error.list)) s = _
  rw [Program.run]
  cases s.insert l <;> rfl

theorem run_insert_of_unused {l : OutageList} {s : Store} (h : s.get? l.id = none) :
    (insert l).run s = (.ok (), s.put l) := by
  rw [run_insert, Store.insert, h]
  rfl

theorem run_insert_of_used {l old : OutageList} {s : Store} (h : s.get? l.id = some old) :
    (insert l).run s = (.error (.list (.alreadyExists l.id)), s) := by
  rw [run_insert, Store.insert, h]
  rfl

theorem run_replace (l : OutageList) (s : Store) :
    (replace l).run s = (.ok (s.get? l.id), if (s.get? l.id).isSome then s.put l else s) := by
  change (Except.ok (s.replace l).1, (s.replace l).2) = _
  unfold Store.replace
  cases s.get? l.id <;> rfl

@[simp] theorem run_delete (id : Uuid) (s : Store) :
    (delete id).run s = (.ok (s.get? id), s.erase id) := rfl

/-! ## Chains -/

theorem run_bind (op : Operation α) (f : α → Operation β) (s : Store) :
    (op >>= f).run s = match op.run s with
      | (.ok a, after) => (f a).run after
      | (.error e, after) => (.error e, after) := by
  change Program.run (ExceptT.run op >>= ExceptT.bindCont f) s = _
  rw [Program.run_bind]
  unfold run
  rcases Program.run (ExceptT.run op) s with ⟨⟨⟩, after⟩ <;> rfl

theorem run_map (f : α → β) (op : Operation α) (s : Store) :
    (f <$> op).run s = ((op.run s).1.map f, (op.run s).2) := by
  unfold run ExceptT.run
  simp only [Functor.map, ExceptT.map, ExceptT.mk, Program.run_bind]
  rcases Program.run op s with ⟨⟨⟩, after⟩ <;> rfl

/-- An operation whose result, an error or not, is an answer. -/
theorem run_attempt (op : Operation α) (s : Store) :
    Operation.run (ExceptT.lift (ExceptT.run op)) s = (.ok (op.run s).1, (op.run s).2) := by
  change Program.run (ExceptT.run op >>= fun r => pure (Except.ok r)) s = _
  rw [Program.run_bind]
  rfl

/-- An operation that leaves every store as it was. -/
def ReadOnly (op : Operation α) : Prop := ∀ s, (op.run s).2 = s

theorem run_keyed (op : Operation α) {s : Store} (h : s.Keyed) : (op.run s).2.Keyed :=
  Program.run_keyed _ h

end Operation

end GridOutage
