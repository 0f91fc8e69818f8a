import GridOutage.CommandLine.PatternEngine
import GridOutage.Proofs.Filter.Readability
import Mathlib.Data.List.Forall2

/-!
# What a text says does not depend on grouping

A group with one part is written as its part, so different conditions may have one text: a part, the
conjunction of it alone, the disjunction of it alone. `ungrouped` takes such groups away. It changes
neither the text nor what holds (`ungrouped_chars`, `ungrouped_holds`), and it leaves conditions that
are determined by their texts (`Filled.plain_ungrouped`). So conditions with one text say the same
(`text_unambiguous`), alone and side by side in a guard.

`Filled` leaves out what a text cannot tell: the bodies of functions, and whether a group without
parts is a conjunction or a disjunction.
-/
namespace GridOutage.Filter.Condition

/-! ## Conditions that say what they read -/

/-- No function is called, and every group has a part. -/
inductive Filled : Condition → Prop
  | voltage (p : MeasurePoint) (c : Comparison) (b : Binary64) : Filled (.voltage p c b)
  | id (g : Glob) : Filled (.id g)
  | name (g : Glob) : Filled (.name g)
  | located (p : MeasurePoint) (s : CountrySet) : Filled (.located p s)
  | all {parts : List Condition} (hparts : ∀ c ∈ parts, Filled c) (hne : parts ≠ []) :
      Filled (.all parts)
  | any {parts : List Condition} (hparts : ∀ c ∈ parts, Filled c) (hne : parts ≠ []) :
      Filled (.any parts)

/-- Two conditions that hold of the same elements of all networks. -/
def Equivalent [PatternEngine] (c d : Condition) : Prop :=
  ∀ (net : Network) (i : Nat) (e : Equipment), c.holds net i e = d.holds net i e

/-! ## Groups of one part -/

/-- A group of some parts, or the part if it is just one. -/
def regroup (make : List Condition → Condition) : List Condition → Condition
  | [c] => c
  | parts => make parts

mutual

/-- The condition without the groups that have one part. -/
def ungrouped : Condition → Condition
  | .all parts => regroup .all (ungroupedAll parts)
  | .any parts => regroup .any (ungroupedAll parts)
  | c => c

def ungroupedAll : List Condition → List Condition
  | [] => []
  | c :: cs => c.ungrouped :: ungroupedAll cs

end

theorem ungroupedAll_eq (cs : List Condition) : ungroupedAll cs = cs.map ungrouped := by
  induction cs with
  | nil => rfl
  | cons c cs ih => rw [ungroupedAll, ih, List.map_cons]

/-- Whatever does not tell a part from the group of it alone does not see the regrouping. -/
theorem regroup_eq {α : Type} (make : List Condition → Condition) (f : Condition → α)
    (hone : ∀ c, f (make [c]) = f c) (parts : List Condition) :
    f (regroup make parts) = f (make parts) := by
  match parts with
  | [] => rfl
  | [c] => exact (hone c).symm
  | _ :: _ :: _ => rfl

theorem regroup_plain {make : List Condition → Condition} {parts : List Condition}
    (hmake : 2 ≤ parts.length → (make parts).Plain) (hparts : ∀ c ∈ parts, c.Plain)
    (hne : parts ≠ []) : (regroup make parts).Plain := by
  match parts with
  | [] => exact absurd rfl hne
  | [c] => exact hparts c List.mem_cons_self
  | _ :: _ :: _ => exact hmake (by simp)

/-! ## What taking them away keeps -/

mutual

theorem ungrouped_chars : ∀ c : Condition, c.ungrouped.chars = c.chars
  | .all parts =>
    (regroup_eq .all chars (fun _ => rfl) _).trans
      (congrArg (grouped " && ") (ungroupedAll_chars parts))
  | .any parts =>
    (regroup_eq .any chars (fun _ => rfl) _).trans
      (congrArg (grouped " || ") (ungroupedAll_chars parts))
  | .voltage .. => rfl
  | .id _ => rfl
  | .name _ => rfl
  | .located .. => rfl
  | .helper .. => rfl

theorem ungroupedAll_chars : ∀ cs : List Condition, allChars (ungroupedAll cs) = allChars cs
  | [] => rfl
  | c :: cs => by rw [ungroupedAll, allChars, allChars, ungrouped_chars c, ungroupedAll_chars cs]

end

section

variable [PatternEngine] (net : Network) (i : Nat) (e : Equipment)

mutual

theorem ungrouped_holds : ∀ c : Condition, c.ungrouped.holds net i e = c.holds net i e
  | .all parts =>
    (regroup_eq .all (holds net i e) (fun c => Bool.and_true (c.holds net i e)) _).trans
      (allHold_ungrouped parts)
  | .any parts =>
    (regroup_eq .any (holds net i e) (fun c => Bool.or_false (c.holds net i e)) _).trans
      (anyHolds_ungrouped parts)
  | .voltage .. => rfl
  | .id _ => rfl
  | .name _ => rfl
  | .located .. => rfl
  | .helper .. => rfl

theorem allHold_ungrouped :
    ∀ cs : List Condition, allHold net i e (ungroupedAll cs) = allHold net i e cs
  | [] => rfl
  | c :: cs => by rw [ungroupedAll, allHold, allHold, ungrouped_holds c, allHold_ungrouped cs]

theorem anyHolds_ungrouped :
    ∀ cs : List Condition, anyHolds net i e (ungroupedAll cs) = anyHolds net i e cs
  | [] => rfl
  | c :: cs => by rw [ungroupedAll, anyHolds, anyHolds, ungrouped_holds c, anyHolds_ungrouped cs]

end

end

theorem Filled.plain_ungrouped {c : Condition} (h : c.Filled) : c.ungrouped.Plain := by
  have hmem {parts : List Condition} (ih : ∀ c ∈ parts, c.ungrouped.Plain) :
      ∀ c ∈ parts.map ungrouped, c.Plain := List.forall_mem_map.2 ih
  induction h with
  | voltage p c b => exact .voltage p c b
  | id g => exact .id g
  | name g => exact .name g
  | located p s => exact .located p s
  | all _ hne ih =>
    rw [ungrouped, ungroupedAll_eq]
    exact regroup_plain (.all (hmem ih)) (hmem ih) (by simpa using hne)
  | any _ hne ih =>
    rw [ungrouped, ungroupedAll_eq]
    exact regroup_plain (.any (hmem ih)) (hmem ih) (by simpa using hne)

/-! ## Texts -/

theorem guard_ungrouped (cs : List Condition) : guard (cs.map ungrouped) = guard cs := by
  simp only [guard, List.map_map, Function.comp_def, ungrouped_chars]

section

variable [PatternEngine]

theorem equivalent_of_ungrouped {c d : Condition} (h : c.ungrouped = d.ungrouped) :
    c.Equivalent d := fun net i e => by
  rw [← ungrouped_holds net i e c, h, ungrouped_holds]

/-- Where a condition ends in a longer text is determined, and what it says is. -/
theorem Filled.chars_append_inj {c d : Condition} (hc : c.Filled) (hd : d.Filled) {r s : List Char}
    (hr : AtBreak ' ' ')' r) (hs : AtBreak ' ' ')' s) (h : c.chars ++ r = d.chars ++ s) :
    c.Equivalent d ∧ r = s := by
  rw [← ungrouped_chars c, ← ungrouped_chars d] at h
  obtain ⟨hungrouped, hrs⟩ := hc.plain_ungrouped.chars_append_inj hd.plain_ungrouped hr hs h
  exact ⟨equivalent_of_ungrouped hungrouped, hrs⟩

theorem forall₂_of_guard {cs ds : List Condition} (hcs : ∀ c ∈ cs, c.Filled)
    (hds : ∀ d ∈ ds, d.Filled) {r s : List Char} (h : guard cs ++ ')' :: r = guard ds ++ ')' :: s) :
    List.Forall₂ Equivalent cs ds ∧ r = s := by
  rw [← guard_ungrouped cs, ← guard_ungrouped ds] at h
  obtain ⟨hmap, hrs⟩ := guard_append_inj
    (List.forall_mem_map.2 fun c hc => (hcs c hc).plain_ungrouped)
    (List.forall_mem_map.2 fun d hd => (hds d hd).plain_ungrouped) h
  have hforall : List.Forall₂ Eq (cs.map ungrouped) (ds.map ungrouped) := by
    rw [hmap]
    exact List.forall₂_refl _
  rw [List.forall₂_map_left_iff, List.forall₂_map_right_iff] at hforall
  exact ⟨hforall.imp fun _ _ => equivalent_of_ungrouped, hrs⟩

theorem all_holds_congr {cs ds : List Condition} (h : List.Forall₂ Equivalent cs ds)
    (net : Network) (i : Nat) (e : Equipment) :
    cs.all (·.holds net i e) = ds.all (·.holds net i e) := by
  induction h with
  | nil => rfl
  | cons hcd _ ih => rw [List.all_cons, List.all_cons, hcd net i e, ih]

/-- Conditions with the same text hold of the same elements, whatever patterns they hold and however
deep they are. Guards with the same text have as many clauses, each with the meaning of the one at
its place, so they are passed by the same elements. -/
theorem text_unambiguous :
    (∀ c d : Condition, c.Filled → d.Filled → c.text = d.text → c.Equivalent d) ∧
    ∀ cs ds : List Condition, (∀ c ∈ cs, c.Filled) → (∀ d ∈ ds, d.Filled) → guard cs = guard ds →
      List.Forall₂ Equivalent cs ds ∧
      ∀ (net : Network) (i : Nat) (e : Equipment),
        cs.all (·.holds net i e) = ds.all (·.holds net i e) := by
  constructor
  · intro c d hc hd h
    -- A text that ends is followed by the same parenthesis as any other.
    have hchars : c.chars ++ [')'] = d.chars ++ [')'] := congrArg (· ++ [')']) (String.ofList_inj.1 h)
    exact (hc.chars_append_inj hd (.inr rfl) (.inr rfl) hchars).1
  · intro cs ds hcs hds h
    have hguard : guard cs ++ [')'] = guard ds ++ [')'] := congrArg (· ++ [')']) h
    have hclauses := (forall₂_of_guard hcs hds hguard).1
    exact ⟨hclauses, all_holds_congr hclauses⟩

end

/-- A name with a quote, a parenthesis and an operator in it. -/
def oddName : Condition := .name ⟨"it's) || x"⟩

/-- Equipment of that name from 63 kilovolts, or of any name below. -/
def nestedGroups : Condition :=
  .any [.all [.all [oddName], .voltage .terminal .greaterOrEqual (.ofInt 63)],
    .any [.voltage .terminal .lessThan (.ofInt 63)]]

/-- The same with other groups of one part. -/
def otherGroups : Condition :=
  .all [.any [.all [.any [oddName], .voltage .terminal .greaterOrEqual (.ofInt 63)],
    .voltage .terminal .lessThan (.ofInt 63)]]

theorem text_unambiguous_groups :
    nestedGroups.Filled ∧ otherGroups.Filled ∧ nestedGroups.text = otherGroups.text ∧
      nestedGroups.Equivalent otherGroups ∧
      guard [nestedGroups, oddName] = guard [otherGroups, .any [oddName]] ∧
      List.Forall₂ Equivalent [nestedGroups, oddName] [otherGroups, .any [oddName]] := by
  have hname : oddName.Filled := .name _
  have hone {c : Condition} (hc : c.Filled) : ∀ x ∈ [c], x.Filled := List.forall_mem_singleton.2 hc
  have htwo {c d : Condition} (hc : c.Filled) (hd : d.Filled) : ∀ x ∈ [c, d], x.Filled :=
    List.forall_mem_cons.2 ⟨hc, hone hd⟩
  have hnested : nestedGroups.Filled :=
    .any (htwo (.all (htwo (.all (hone hname) (by simp)) (.voltage ..)) (by simp))
      (.any (hone (.voltage ..)) (by simp))) (by simp)
  have hother : otherGroups.Filled :=
    .all (hone (.any (htwo (.all (htwo (.any (hone hname) (by simp)) (.voltage ..)) (by simp))
      (.voltage ..)) (by simp))) (by simp)
  have hsame : nestedGroups.ungrouped = otherGroups.ungrouped := rfl
  have hchars : nestedGroups.chars = otherGroups.chars := by
    rw [← ungrouped_chars nestedGroups, hsame, ungrouped_chars]
  have htext : nestedGroups.text = otherGroups.text := congrArg String.ofList hchars
  have hguard : guard [nestedGroups, oddName] = guard [otherGroups, .any [oddName]] := by
    have hodd : (Condition.any [oddName]).chars = oddName.chars := rfl
    simp only [guard, List.map_cons, hchars, hodd]
  exact ⟨hnested, hother, htext, text_unambiguous.1 _ _ hnested hother htext, hguard,
    (text_unambiguous.2 _ _ (htwo hnested hname) (htwo hother (.any (hone hname) (by simp)))
      hguard).1⟩

/-- Of groups without a part the text does not tell the one that always holds from the one that
never does. -/
example : (Condition.all []).text = (Condition.any []).text := by decide +kernel

end GridOutage.Filter.Condition
