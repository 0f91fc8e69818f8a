import Mathlib.Data.List.Forall2

/-!
# When a chain of fallible steps succeeds

Each lemma says of one way to combine fallible steps that the whole gives a result exactly when
every part does, so proofs take a computation apart without opening it. A list of steps that fails
does so with the error of the `First` step that fails.
-/
namespace GridOutage.Outcome

variable {ε α β : Type}

theorem bind_eq_ok_iff {x : Except ε α} {f : α → Except ε β} {b : β} :
    x >>= f = .ok b ↔ ∃ a, x = .ok a ∧ f a = .ok b := by
  cases x <;> simp [bind, Except.bind]

theorem map_eq_ok_iff {f : α → β} {x : Except ε α} {b : β} :
    f <$> x = .ok b ↔ ∃ a, x = .ok a ∧ f a = b := by
  cases x <;> simp [Functor.map, Except.map]

theorem mapError_eq_ok_iff {ε' : Type} {f : ε → ε'} {x : Except ε α} {a : α} :
    x.mapError f = .ok a ↔ x = .ok a := by
  cases x <;> simp [Except.mapError]

theorem mapM_eq_ok_iff {f : α → Except ε β} {xs : List α} {ys : List β} :
    xs.mapM f = .ok ys ↔ List.Forall₂ (fun x y => f x = .ok y) xs ys := by
  induction xs generalizing ys with
  | nil => cases ys <;> simp [pure, Except.pure]
  | cons x xs ih =>
    rw [List.mapM_cons, bind_eq_ok_iff, List.forall₂_cons_left_iff]
    refine exists_congr fun y => ?_
    rw [bind_eq_ok_iff]
    simp [ih, pure, Except.pure, and_comm, eq_comm]

theorem forM_eq_ok_iff {f : α → Except ε Unit} {xs : List α} :
    xs.forM f = .ok () ↔ ∀ x ∈ xs, f x = .ok () := by
  induction xs with
  | nil => simp [pure, Except.pure]
  | cons x xs ih =>
    rw [List.forM_eq_forM] at ih
    rw [List.forM_eq_forM, List.forM_cons, bind_eq_ok_iff, List.forall_mem_cons]
    constructor
    · intro h
      obtain ⟨⟨⟩, hx, hxs⟩ := h
      exact ⟨hx, ih.1 hxs⟩
    · intro h
      obtain ⟨hx, hxs⟩ := h
      exact ⟨(), hx, ih.2 hxs⟩

theorem optionMapM_eq_ok_iff {f : α → Except ε β} {o : Option α} {r : Option β} :
    o.mapM f = .ok r ↔ o.elim (r = none) fun a => ∃ b, f a = .ok b ∧ r = some b := by
  cases o with
  | none =>
    change (.ok none : Except ε (Option β)) = .ok r ↔ r = none
    rw [Except.ok.injEq, eq_comm]
  | some a =>
    change some <$> f a = .ok r ↔ ∃ b, f a = .ok b ∧ r = some b
    rw [map_eq_ok_iff]
    exact exists_congr fun b => and_congr_right fun _ => eq_comm

/-! ## The first failure -/

/-- The first member of a list that a property holds of. -/
inductive First (p : α → Prop) : List α → α → Prop
  | here {x : α} {xs : List α} (h : p x) : First p (x :: xs) x
  | later {x y : α} {xs : List α} (h : ¬ p x) (hy : First p xs y) : First p (x :: xs) y

theorem First.holds {p : α → Prop} {xs : List α} {x : α} (h : First p xs x) : x ∈ xs ∧ p x := by
  induction h with
  | here h => exact ⟨List.mem_cons_self, h⟩
  | later _ _ ih => exact ⟨List.mem_cons_of_mem _ ih.1, ih.2⟩

theorem exists_first_iff {p : α → Prop} {xs : List α} : (∃ x, First p xs x) ↔ ∃ x ∈ xs, p x := by
  refine ⟨fun ⟨x, h⟩ => ⟨x, h.holds⟩, fun h => ?_⟩
  induction xs with
  | nil => simp at h
  | cons x xs ih =>
    by_cases hx : p x
    · exact ⟨x, .here hx⟩
    · obtain ⟨y, hy, hpy⟩ := h
      rcases List.mem_cons.1 hy with rfl | hy
      · exact absurd hpy hx
      · obtain ⟨z, hz⟩ := ih ⟨y, hy, hpy⟩
        exact ⟨z, .later hx hz⟩

theorem First.append_left {p : α → Prop} {xs ys : List α} {x : α} (h : First p xs x) :
    First p (xs ++ ys) x := by
  induction h with
  | here h => exact .here h
  | later h _ ih => exact .later h ih

theorem First.append_right {p : α → Prop} {xs ys : List α} {y : α} (hxs : ∀ x ∈ xs, ¬ p x)
    (h : First p ys y) : First p (xs ++ ys) y := by
  induction xs with
  | nil => exact h
  | cons x xs ih =>
    obtain ⟨hx, hxs⟩ := List.forall_mem_cons.1 hxs
    exact .later hx (ih hxs)

/-- The first in a list of lists is the first in the first list that has one. -/
theorem First.flatMap {p : β → Prop} {f : α → List β} {xs : List α} {x : α} {y : β}
    (hx : First (fun x => ∃ y ∈ f x, p y) xs x) (hy : First p (f x) y) :
    First p (xs.flatMap f) y := by
  induction hx with
  | here _ => exact hy.append_left
  | later h _ ih => exact (ih hy).append_right fun z hz hp => h ⟨z, hz, hp⟩

/-- The first among the results is the result of the first that gives such a one. -/
theorem First.of_filterMap {p : β → Prop} {f : α → Option β} {xs : List α} {y : β}
    (h : First p (xs.filterMap f) y) :
    ∃ x, First (fun x => ∃ y, f x = some y ∧ p y) xs x ∧ f x = some y := by
  induction xs with
  | nil => cases h
  | cons x xs ih =>
    cases hx : f x with
    | none =>
      rw [List.filterMap_cons_none hx] at h
      obtain ⟨z, hz, hy⟩ := ih h
      exact ⟨z, .later (by simp [hx]) hz, hy⟩
    | some w =>
      rw [List.filterMap_cons_some hx] at h
      cases h with
      | here hp => exact ⟨x, .here ⟨_, hx, hp⟩, hx⟩
      | later hp h =>
        obtain ⟨z, hz, hy⟩ := ih h
        exact ⟨z, .later (by simpa [hx] using hp) hz, hy⟩

theorem map_eq_error_iff {f : α → β} {x : Except ε α} {e : ε} : f <$> x = .error e ↔ x = .error e := by
  cases x <;> simp [Functor.map, Except.map]

theorem mapM_eq_error_iff {f : α → Except ε β} {xs : List α} {e : ε} :
    xs.mapM f = .error e ↔ ∃ x, First (fun x => ∃ e, f x = .error e) xs x ∧ f x = .error e := by
  induction xs with
  | nil =>
    constructor
    · intro h
      cases h
    · intro ⟨x, h, _⟩
      cases h
  | cons x xs ih =>
    rw [List.mapM_cons]
    cases hx : f x with
    | error e' =>
      constructor
      · intro h
        obtain rfl : e' = e := Except.error.inj h
        exact ⟨x, .here ⟨e', hx⟩, hx⟩
      · intro ⟨y, hy, he⟩
        cases hy with
        | here _ =>
          rw [hx] at he
          rw [Except.error.inj he]
          rfl
        | later h _ => exact absurd ⟨e', hx⟩ h
    | ok b =>
      have hrest : (xs.mapM f >>= fun ys => pure (b :: ys)) = .error e ↔ xs.mapM f = .error e := by
        cases xs.mapM f <;> simp [bind, Except.bind, pure, Except.pure]
      have hnot : ¬ ∃ e, f x = .error e := by simp [hx]
      refine hrest.trans (ih.trans ?_)
      constructor
      · intro ⟨y, hy, he⟩
        exact ⟨y, .later hnot hy, he⟩
      · intro ⟨y, hy, he⟩
        cases hy with
        | here h => exact absurd h hnot
        | later _ hy => exact ⟨y, hy, he⟩

/-- The same when what makes a step fail, and with which error, is known beforehand. -/
theorem mapM_eq_error_iff_of {f : α → Except ε β} {p : α → Prop} {fault : α → ε}
    (hf : ∀ x e, f x = .error e ↔ p x ∧ e = fault x) {xs : List α} {e : ε} :
    xs.mapM f = .error e ↔ ∃ x, First p xs x ∧ e = fault x := by
  have hfails : (fun x => ∃ e, f x = .error e) = p := by
    funext x
    simp [hf]
  rw [mapM_eq_error_iff, hfails]
  simp only [hf]
  exact exists_congr fun x => and_congr_right fun hx => and_iff_right hx.holds.2

theorem exists_mapM_error_iff {f : α → Except ε β} {xs : List α} :
    (∃ e, xs.mapM f = .error e) ↔ ∃ x ∈ xs, ∃ e, f x = .error e := by
  rw [← exists_first_iff]
  constructor
  · intro ⟨e, he⟩
    obtain ⟨x, hx, -⟩ := mapM_eq_error_iff.1 he
    exact ⟨x, hx⟩
  · intro ⟨x, hx⟩
    obtain ⟨e, he⟩ := hx.holds.2
    exact ⟨e, mapM_eq_error_iff.2 ⟨x, hx, he⟩⟩

/-- The error is a fault of the first step that has one. -/
def FirstFault {ι : Type} (fault : ι → ε → Prop) (steps : List ι) (e : ε) : Prop :=
  ∃ i, First (fun i => ∃ e, fault i e) steps i ∧ fault i e

theorem firstFault_nil {ι : Type} {fault : ι → ε → Prop} {e : ε} : ¬ FirstFault fault [] e := by
  rintro ⟨i, hi, -⟩
  cases hi

/-- Of a step and those that follow, the step is the first. -/
theorem bind_eq_error_iff_firstFault {ι : Type} {x : Except ε α} {f : α → Except ε β}
    {fault : ι → ε → Prop} {i : ι} {later : List ι} (hx : ∀ e, x = .error e ↔ fault i e)
    (hf : ∀ a e, f a = .error e ↔ FirstFault fault later e) (e : ε) :
    x >>= f = .error e ↔ FirstFault fault (i :: later) e := by
  cases x with
  | error e' =>
    have hfault : fault i e' := (hx e').1 rfl
    constructor
    · intro h
      obtain rfl : e' = e := Except.error.inj h
      exact ⟨i, .here ⟨e', hfault⟩, hfault⟩
    · rintro ⟨j, hj, he⟩
      cases hj with
      | here _ =>
        obtain rfl : e' = e := Except.error.inj ((hx e).2 he)
        rfl
      | later hno _ => exact absurd ⟨e', hfault⟩ hno
  | ok a =>
    have hno : ¬ ∃ e, fault i e := by
      rintro ⟨e', he'⟩
      cases (hx e').2 he'
    refine (hf a e).trans ?_
    constructor
    · rintro ⟨j, hj, he⟩
      exact ⟨j, .later hno hj, he⟩
    · rintro ⟨j, hj, he⟩
      cases hj with
      | here hi => exact absurd hi hno
      | later _ hj => exact ⟨j, hj, he⟩

/-! ## Pairs -/

/-- What is known of the pairs of two lists is known of the members of the right one. -/
theorem forall_right_of_forall₂ {R : α → β → Prop} {P : β → Prop} {xs : List α} {ys : List β}
    (h : List.Forall₂ R xs ys) (hP : ∀ x y, R x y → P y) : ∀ y ∈ ys, P y := by
  induction h with
  | nil => simp
  | cons hr _ ih => exact List.forall_mem_cons.2 ⟨hP _ _ hr, ih⟩

/-- What holds of the left members of two lists of pairs holds of the right ones, in other words. -/
theorem forall_iff_of_forall₂ {R : α → β → Prop} {P : α → Prop} {Q : β → Prop} {xs : List α}
    {ys : List β} (h : List.Forall₂ R xs ys) (hPQ : ∀ x y, R x y → (P x ↔ Q y)) :
    (∀ x ∈ xs, P x) ↔ ∀ y ∈ ys, Q y := by
  induction h with
  | nil => simp
  | cons hr _ ih => rw [List.forall_mem_cons, List.forall_mem_cons, hPQ _ _ hr, ih]

theorem exists_of_forall₂ {R : α → β → Prop} {xs : List α} {ys : List β}
    (h : List.Forall₂ R xs ys) {x : α} (hx : x ∈ xs) : ∃ y, R x y :=
  forall_right_of_forall₂ (P := fun x => ∃ y, R x y) h.flip (fun y _ hr => ⟨y, hr⟩) x hx

/-- A partner for each member makes a list of partners. -/
theorem exists_forall₂ {R : α → β → Prop} {xs : List α} (h : ∀ x ∈ xs, ∃ y, R x y) :
    ∃ ys, List.Forall₂ R xs ys := by
  induction xs with
  | nil => exact ⟨[], .nil⟩
  | cons x xs ih =>
    obtain ⟨⟨y, hy⟩, hxs⟩ := List.forall_mem_cons.1 h
    obtain ⟨ys, hys⟩ := ih hxs
    exact ⟨y :: ys, .cons hy hys⟩

/-- Pairs stay pairs when both lists are given the same labels. -/
theorem forall₂_zip_same {γ : Type} {R : α → β → Prop} {xs : List α} {ys : List β}
    (h : List.Forall₂ R xs ys) (labels : List γ) :
    List.Forall₂ (fun p q => p.1 = q.1 ∧ R p.2 q.2) (labels.zip xs) (labels.zip ys) := by
  induction h generalizing labels with
  | nil => simp
  | cons hr _ ih =>
    cases labels with
    | nil => exact .nil
    | cons label labels => exact .cons ⟨rfl, hr⟩ (ih labels)

/-! ## Names -/

/-- Where every name stands once, a look-up finds what stands there. -/
theorem lookup_eq_some_iff_mem {l : List (String × β)} (hl : (l.map Prod.fst).Nodup) {name : String}
    {b : β} : l.lookup name = some b ↔ (name, b) ∈ l := by
  induction l with
  | nil => simp
  | cons p l ih =>
    obtain ⟨hp, hl⟩ := List.nodup_cons.1 hl
    by_cases h : name = p.1
    · subst h
      -- The first entry answers, and no other entry has its name.
      have : (p.1, b) ∉ l := fun hm => hp (List.mem_map.2 ⟨_, hm, rfl⟩)
      rw [List.lookup_cons, beq_self_eq_true]
      grind
    · rw [List.lookup_cons, beq_eq_false_iff_ne.2 h]
      simp only [ih hl, List.mem_cons]
      grind

end GridOutage.Outcome
