import GridOutage.Document.Decode

/-!
# Values that programs write

A program writes texts and numbers, in lists and objects. Whatever a reader does to values it
cannot trust leaves these alone: nothing in them breaks off or is unreadable, there is no untyped
scalar to settle, and a limit of nesting that they keep cuts nothing off. `Written p` says besides
what is known of the numbers; what is shown for every `p` has none.
-/
namespace GridOutage.Document.Value

/-- Texts and numbers of a kind, in lists and objects that are nested no deeper than a limit. -/
inductive Written (p : Binary64 → Prop) : Nat → Value → Prop
  | str {limit : Nat} (s : String) : Written p limit (.str s)
  | real {limit : Nat} {x : Binary64} (h : p x) : Written p limit (.real x)
  | arr {limit : Nat} {items : List Value} (h : ∀ v ∈ items, Written p limit v) :
      Written p (limit + 1) (.arr items)
  | obj {limit : Nat} {entries : List (String × Value)} (h : ∀ e ∈ entries, Written p limit e.2) :
      Written p (limit + 1) (.obj entries)

/-! ## The parts of lists and objects -/

theorem anyBreaks_eq (items : List Value) : anyBreaks items = items.any breaks := by
  induction items with
  | nil => rfl
  | cons v items ih => rw [anyBreaks, ih, List.any_cons]

theorem entryBreaks_eq (entries : List (String × Value)) :
    entryBreaks entries = entries.any (·.2.breaks) := by
  induction entries with
  | nil => rfl
  | cons e entries ih => rw [entryBreaks, ih, List.any_cons]

theorem readableItems_eq (items : List Value) : readableItems items = items.all readable := by
  induction items with
  | nil => rfl
  | cons v items ih => rw [readableItems, ih, List.all_cons]

theorem readableEntries_eq (entries : List (String × Value)) :
    readableEntries entries = entries.all (·.2.readable) := by
  induction entries with
  | nil => rfl
  | cons e entries ih => rw [readableEntries, ih, List.all_cons]

theorem settledItems_eq (items : List Value) : settledItems items = items.map settled := by
  induction items with
  | nil => rfl
  | cons v items ih => rw [settledItems, ih, List.map_cons]

theorem settledEntries_eq (entries : List (String × Value)) :
    settledEntries entries = entries.map fun e => (e.1, e.2.settled) := by
  induction entries with
  | nil => rfl
  | cons e entries ih => rw [settledEntries, ih, List.map_cons]

theorem limitedItems_eq (n : Nat) (items : List Value) :
    limitedItems n items = items.map (limited n) := by
  induction items with
  | nil => rfl
  | cons v items ih => rw [limitedItems, ih, List.map_cons]

theorem limitedEntries_eq (n : Nat) (entries : List (String × Value)) :
    limitedEntries n entries = entries.map fun e => (e.1, e.2.limited n) := by
  induction entries with
  | nil => rfl
  | cons e entries ih => rw [limitedEntries, ih, List.map_cons]

/-! ## Precautions -/

/-- A change that leaves every member alone leaves the list alone. -/
theorem map_eq_self {α : Type} {f : α → α} {l : List α} (h : ∀ a ∈ l, f a = a) : l.map f = l :=
  (List.map_congr_left h).trans (List.map_id l)

theorem map_entries_eq_self {f : Value → Value} {entries : List (String × Value)}
    (h : ∀ e ∈ entries, f e.2 = e.2) : (entries.map fun e => (e.1, f e.2)) = entries :=
  map_eq_self fun e he => by rw [h e he]

namespace Written

variable {p : Binary64 → Prop} {n : Nat} {v : Value}

theorem texts (ss : List String) : Written p (n + 1) (.arr (ss.map .str)) :=
  .arr (List.forall_mem_map.2 fun s _ => .str s)

theorem breaks (h : v.Written p n) : v.breaks = false := by
  induction h with
  | str s => rfl
  | real h => rfl
  | arr _ ih =>
    rw [Value.breaks, anyBreaks_eq, List.any_eq_false]
    exact fun v hv => by rw [ih v hv]; exact Bool.false_ne_true
  | obj _ ih =>
    rw [Value.breaks, entryBreaks_eq, List.any_eq_false]
    exact fun e he => by rw [ih e he]; exact Bool.false_ne_true

theorem readable (h : v.Written p n) : v.readable = true := by
  induction h with
  | str s => rfl
  | real h => rfl
  | arr _ ih =>
    rw [Value.readable, readableItems_eq, List.all_eq_true]
    exact ih
  | obj _ ih =>
    rw [Value.readable, readableEntries_eq, List.all_eq_true]
    exact ih

theorem settled (h : v.Written p n) : v.settled = v := by
  induction h with
  | str s => rfl
  | real h => rfl
  | arr _ ih => rw [Value.settled, settledItems_eq, map_eq_self ih]
  | obj _ ih => rw [Value.settled, settledEntries_eq, map_entries_eq_self ih]

end Written

end GridOutage.Document.Value
