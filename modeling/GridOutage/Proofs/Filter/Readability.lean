import GridOutage.Proofs.Binary64.NumberText
import GridOutage.Proofs.Filter.Literal

/-!
# Conditions are determined by their texts

`chars_append_inj`: a condition is the only one with its text, also where more text follows. It
holds of `Plain` conditions, in which no group has just one part (such a group is written as its
part) and which call the known functions without a body (which is not written).

The first word of a text, up to a blank or a parenthesis, tells what kind of condition it is and,
for voltages, at which point (`Lead.word_injective`). What comes after it is read by kind.
-/
namespace GridOutage.Filter

open Binary64.Layout (IsNumberChar)

/-- The functions that scripts call for the countries of elements with two ends. -/
def countryFunctions : List String := ["hvdcLineMatch", "lineMatch", "transfoMatch"]

/-! ## First words -/

/-- What the first word of a condition tells. -/
inductive Lead where
  | voltage (p : MeasurePoint)
  | id
  | name
  | located
  | helper (function : String)
  /-- No word: a parenthesis comes first. -/
  | group
  deriving DecidableEq

namespace Lead

def word : Lead → List Char
  | .voltage p => p.path.toList ++ ".voltageLevel.nominalV".toList
  | .id => "matchID".toList
  | .name => "matchName".toList
  | .located => "isLocatedIn".toList
  | .helper function => function.toList
  | .group => []

def all : List Lead :=
  MeasurePoint.all.map .voltage ++ [.id, .name, .located] ++ countryFunctions.map .helper ++ [.group]

theorem word_injective : ∀ a ∈ all, ∀ b ∈ all, a.word = b.word → a = b := by decide +kernel

theorem word_chars : ∀ a ∈ all, ∀ c ∈ a.word, c ∉ [' ', '(', ')'] := by
  have hall : all.all (fun a => a.word.all fun c => decide (c ∉ [' ', '(', ')'])) = true := by
    decide +kernel
  intro a ha c hc
  exact of_decide_eq_true (List.all_eq_true.1 (List.all_eq_true.1 hall a ha) c hc)

end Lead

namespace Condition

def lead : Condition → Lead
  | .voltage p _ _ => .voltage p
  | .id _ => .id
  | .name _ => .name
  | .located _ _ => .located
  | .all _ => .group
  | .any _ => .group
  | .helper function _ _ _ => .helper function

/-- The conditions that are determined by their texts. -/
inductive Plain : Condition → Prop
  | voltage (p : MeasurePoint) (c : Comparison) (b : Binary64) : Plain (.voltage p c b)
  | id (g : Glob) : Plain (.id g)
  | name (g : Glob) : Plain (.name g)
  | located (p : MeasurePoint) (s : CountrySet) : Plain (.located p s)
  | all {parts : List Condition} (hparts : ∀ c ∈ parts, Plain c) (hlen : 2 ≤ parts.length) :
      Plain (.all parts)
  | any {parts : List Condition} (hparts : ∀ c ∈ parts, Plain c) (hlen : 2 ≤ parts.length) :
      Plain (.any parts)
  | helper {function : String} (hf : function ∈ countryFunctions) (s t : CountrySet) :
      Plain (.helper function s t (.all []))

theorem Plain.lead_mem {c : Condition} (h : c.Plain) : c.lead ∈ Lead.all := by
  unfold lead Lead.all
  cases h with
  | voltage p =>
    have hp : p ∈ MeasurePoint.all := by cases p <;> decide
    simp [hp]
  | helper hf => simp [hf]
  | _ => simp

/-- A group of two parts or more. -/
def group (separator : String) (parts : List Condition) : List Char :=
  '(' :: joined separator.toList (parts.map chars) ++ [')']

theorem grouped_eq {separator : String} {parts : List Condition} (hlen : 2 ≤ parts.length) :
    grouped separator (allChars parts) = group separator parts := by
  rw [allChars_eq]
  match parts, hlen with
  | _ :: _ :: _, _ => rfl

/-- The text of a condition after its first word. -/
def afterLead : Condition → List Char
  | .voltage _ c b => ' ' :: c.symbol.toList ++ ' ' :: boundLayout.render b
  | .id g => '(' :: quoted g.text.toList ++ ", equipment)".toList
  | .name g => '(' :: quoted g.text.toList ++ ", equipment)".toList
  | .located p s => '(' :: countryList s ++ ", ".toList ++ p.located.toList ++ [')']
  | .all parts => group " && " parts
  | .any parts => group " || " parts
  | .helper _ s t _ =>
    '(' :: "equipment, ".toList ++ countryList s ++ ", ".toList ++ countryList t ++ [')']

theorem Plain.chars_eq {c : Condition} (h : c.Plain) : c.chars = c.lead.word ++ c.afterLead := by
  cases h with
  | voltage p c b =>
    have hpath : ".voltageLevel.nominalV ".toList = ".voltageLevel.nominalV".toList ++ [' '] := by simp
    unfold chars lead Lead.word afterLead
    rw [hpath]
    simp only [List.append_assoc, List.cons_append, List.nil_append]
  | id g =>
    have hname : "matchID(".toList = "matchID".toList ++ ['('] := by simp
    unfold chars lead Lead.word afterLead
    rw [hname]
    simp only [List.append_assoc, List.cons_append, List.nil_append]
  | name g =>
    have hname : "matchName(".toList = "matchName".toList ++ ['('] := by simp
    unfold chars lead Lead.word afterLead
    rw [hname]
    simp only [List.append_assoc, List.cons_append, List.nil_append]
  | located p s =>
    have hname : "isLocatedIn(".toList = "isLocatedIn".toList ++ ['('] := by simp
    unfold chars lead Lead.word afterLead
    rw [hname]
    simp only [List.append_assoc, List.cons_append, List.nil_append]
  | all hparts hlen => exact grouped_eq hlen
  | any hparts hlen => exact grouped_eq hlen
  | helper hf s t =>
    have hname : "(equipment, ".toList = '(' :: "equipment, ".toList := by simp
    unfold chars lead Lead.word afterLead
    rw [hname]
    simp only [List.append_assoc, List.cons_append]

theorem afterLead_atBreak (c : Condition) (r : List Char) : AtBreak ' ' '(' (c.afterLead ++ r) := by
  cases c with
  | voltage p c b => exact .inl rfl
  | _ => exact .inr rfl

/-- Conditions with the same text, whatever follows, have the same first word. -/
theorem lead_eq_of_chars {c d : Condition} (hc : c.Plain) (hd : d.Plain) {r s : List Char}
    (h : c.chars ++ r = d.chars ++ s) :
    c.lead = d.lead ∧ c.afterLead ++ r = d.afterLead ++ s := by
  rw [hc.chars_eq, hd.chars_eq, List.append_assoc, List.append_assoc] at h
  obtain ⟨hword, hrest⟩ := append_inj_of_stop (Lead.word_chars _ hc.lead_mem)
    (Lead.word_chars _ hd.lead_mem) ((c.afterLead_atBreak r).stops (by decide) (by decide))
    ((d.afterLead_atBreak s).stops (by decide) (by decide)) h
  exact ⟨Lead.word_injective _ hc.lead_mem _ hd.lead_mem hword, hrest⟩

/-! ## After the first word -/

section

variable {r s : List Char}

theorem symbol_injective {c d : Comparison} (h : c.symbol.toList = d.symbol.toList) : c = d := by
  revert h
  cases c <;> cases d <;> decide

theorem symbol_chars (c : Comparison) : ∀ ch ∈ c.symbol.toList, ch ≠ ' ' := by
  cases c <;> simp [Comparison.symbol]

/-- A number is determined by its text up to a blank or a parenthesis. -/
theorem render_append_inj {a b : Binary64} (hr : AtBreak ' ' ')' r) (hs : AtBreak ' ' ')' s)
    (h : boundLayout.render a ++ r = boundLayout.render b ++ s) : a = b ∧ r = s := by
  have hchars (x : Binary64) : ∀ ch ∈ boundLayout.render x, IsNumberChar ch :=
    boundLayout.render_chars x
  obtain ⟨htext, hrs⟩ := append_inj_of_stop (hchars a) (hchars b)
    (hr.stops (by decide) (by decide)) (hs.stops (by decide) (by decide)) h
  exact ⟨boundLayout.render_injective htext, hrs⟩

theorem comparison_append_inj {c d : Comparison} {a b : Binary64} (hr : AtBreak ' ' ')' r)
    (hs : AtBreak ' ' ')' s)
    (h : ' ' :: c.symbol.toList ++ ' ' :: boundLayout.render a ++ r =
      ' ' :: d.symbol.toList ++ ' ' :: boundLayout.render b ++ s) : c = d ∧ a = b ∧ r = s := by
  simp only [List.cons_append, List.append_assoc] at h
  obtain ⟨hsymbol, hrest⟩ := append_inj_of_stop (symbol_chars c) (symbol_chars d) (by simp) (by simp)
    (List.cons.inj h).2
  obtain ⟨hbound, hrs⟩ := render_append_inj hr hs (List.cons.inj hrest).2
  exact ⟨symbol_injective hsymbol, hbound, hrs⟩

theorem pattern_append_inj {g g' : Glob}
    (h : '(' :: quoted g.text.toList ++ ", equipment)".toList ++ r =
      '(' :: quoted g'.text.toList ++ ", equipment)".toList ++ s) : g = g' ∧ r = s := by
  generalize ", equipment)".toList = argument at h
  simp only [List.cons_append, List.append_assoc] at h
  obtain ⟨htext, hrest⟩ := quoted_append_inj (List.cons.inj h).2
  rw [String.toList_inj, ← Glob.mk.injEq] at htext
  exact ⟨htext, List.append_cancel_left hrest⟩

theorem located_injective {p q : MeasurePoint} (h : p.located.toList = q.located.toList) : p = q := by
  have hlocated := String.toList_inj.1 h
  revert hlocated
  cases p <;> cases q <;> simp [MeasurePoint.located, MeasurePoint.path]

theorem located_chars (p : MeasurePoint) : ∀ ch ∈ p.located.toList, ch ≠ ')' := by
  cases p <;> simp [MeasurePoint.located, MeasurePoint.path]

theorem located_append_inj {a b : CountrySet} {p q : MeasurePoint}
    (h : '(' :: countryList a ++ ", ".toList ++ p.located.toList ++ [')'] ++ r =
      '(' :: countryList b ++ ", ".toList ++ q.located.toList ++ [')'] ++ s) :
    a = b ∧ p = q ∧ r = s := by
  generalize ", ".toList = separator at h
  simp only [List.cons_append, List.append_assoc, List.nil_append] at h
  obtain ⟨hset, hrest⟩ := countryList_append_inj (List.cons.inj h).2
  obtain ⟨hpoint, htail⟩ := append_inj_of_stop (located_chars p) (located_chars q) (by simp)
    (by simp) (List.append_cancel_left hrest)
  exact ⟨hset, located_injective hpoint, (List.cons.inj htail).2⟩

theorem helper_append_inj {a b a' b' : CountrySet}
    (h : '(' :: "equipment, ".toList ++ countryList a ++ ", ".toList ++ countryList b ++ [')'] ++ r =
      '(' :: "equipment, ".toList ++ countryList a' ++ ", ".toList ++ countryList b' ++ [')'] ++ s) :
    a = a' ∧ b = b' ∧ r = s := by
  generalize "equipment, ".toList = argument at h
  generalize ", ".toList = separator at h
  simp only [List.cons_append, List.append_assoc, List.nil_append] at h
  obtain ⟨hfirst, hrest⟩ := countryList_append_inj (List.append_cancel_left (List.cons.inj h).2)
  obtain ⟨hsecond, htail⟩ := countryList_append_inj (List.append_cancel_left hrest)
  exact ⟨hfirst, hsecond, (List.cons.inj htail).2⟩

end

/-! ## Whole conditions -/

/-- No condition starts with a closing parenthesis. -/
theorem Plain.opens {c : Condition} (h : c.Plain) : Opens ')' c.chars := by
  have hchars := Lead.word_chars _ h.lead_mem
  rw [h.chars_eq]
  cases hword : c.lead.word with
  | cons ch word =>
    rw [hword] at hchars
    refine ⟨ch, word ++ c.afterLead, rfl, ?_⟩
    intro hclose
    subst hclose
    exact hchars ')' List.mem_cons_self (by simp)
  | nil =>
    rw [List.nil_append]
    have hbreak := c.afterLead_atBreak []
    rw [List.append_nil] at hbreak
    rcases hbreak with hhead | hhead
    · obtain ⟨rest, hrest⟩ := List.head?_eq_some_iff.1 hhead
      exact ⟨' ', rest, hrest, by decide⟩
    · obtain ⟨rest, hrest⟩ := List.head?_eq_some_iff.1 hhead
      exact ⟨'(', rest, hrest, by decide⟩

theorem andSeparator : " && ".toList = ' ' :: ['&', '&', ' '] := by simp

theorem orSeparator : " || ".toList = ' ' :: ['|', '|', ' '] := by simp

/-- Groups of conditions that are determined by their texts are, and so is the separator. -/
theorem group_append_inj {separator separator' : String} {m m' : List Char}
    {parts parts' : List Condition} {r s : List Char} (hm : separator.toList = ' ' :: m)
    (hm' : separator'.toList = ' ' :: m') (hlen : m.length = m'.length)
    (hparts : ∀ c ∈ parts, c.Plain) (hparts' : ∀ c ∈ parts', c.Plain) (htwo : 2 ≤ parts.length)
    (ih : ∀ c ∈ parts, ∀ {d}, d.Plain → ∀ {r s}, AtBreak ' ' ')' r → AtBreak ' ' ')' s →
      c.chars ++ r = d.chars ++ s → c = d ∧ r = s)
    (h : group separator parts ++ r = group separator' parts' ++ s) :
    parts = parts' ∧ m = m' ∧ r = s := by
  unfold group at h
  rw [hm, hm', List.append_assoc, List.append_assoc] at h
  obtain ⟨hlist, hsep, hrs⟩ := joined_append_inj (by decide) hlen (fun c hc => (hparts c hc).opens)
    (fun c hc => (hparts' c hc).opens)
    (fun c hc d hd _ _ hx hy hxy => ih c hc (hparts' d hd) hx hy hxy) (List.cons.inj h).2
  exact ⟨hlist, hsep htwo, hrs⟩

/-- A condition is determined by its text up to a blank or a closing parenthesis. -/
theorem Plain.chars_append_inj {c d : Condition} (hc : c.Plain) (hd : d.Plain) {r s : List Char}
    (hr : AtBreak ' ' ')' r) (hs : AtBreak ' ' ')' s) (h : c.chars ++ r = d.chars ++ s) :
    c = d ∧ r = s := by
  induction hc generalizing d r s with
  | voltage p comparison b =>
    obtain ⟨hlead, hrest⟩ := lead_eq_of_chars (.voltage p comparison b) hd h
    cases hd with
    | voltage p' comparison' b' =>
      obtain ⟨rfl, rfl, hrs⟩ := comparison_append_inj hr hs hrest
      obtain rfl := Lead.voltage.inj hlead
      exact ⟨rfl, hrs⟩
    | _ => cases hlead
  | id g =>
    obtain ⟨hlead, hrest⟩ := lead_eq_of_chars (.id g) hd h
    cases hd with
    | id g' =>
      obtain ⟨rfl, hrs⟩ := pattern_append_inj hrest
      exact ⟨rfl, hrs⟩
    | _ => cases hlead
  | name g =>
    obtain ⟨hlead, hrest⟩ := lead_eq_of_chars (.name g) hd h
    cases hd with
    | name g' =>
      obtain ⟨rfl, hrs⟩ := pattern_append_inj hrest
      exact ⟨rfl, hrs⟩
    | _ => cases hlead
  | located p a =>
    obtain ⟨hlead, hrest⟩ := lead_eq_of_chars (.located p a) hd h
    cases hd with
    | located p' a' =>
      obtain ⟨rfl, rfl, hrs⟩ := located_append_inj hrest
      exact ⟨rfl, hrs⟩
    | _ => cases hlead
  | helper hf a b =>
    obtain ⟨hlead, hrest⟩ := lead_eq_of_chars (.helper hf a b) hd h
    cases hd with
    | helper hf' a' b' =>
      obtain ⟨rfl, rfl, hrs⟩ := helper_append_inj hrest
      obtain rfl := Lead.helper.inj hlead
      exact ⟨rfl, hrs⟩
    | _ => cases hlead
  | all hparts htwo ih =>
    obtain ⟨hlead, hrest⟩ := lead_eq_of_chars (.all hparts htwo) hd h
    cases hd with
    | all hparts' htwo' =>
      obtain ⟨rfl, -, hrs⟩ := group_append_inj andSeparator andSeparator rfl hparts hparts' htwo ih
        hrest
      exact ⟨rfl, hrs⟩
    | any hparts' htwo' =>
      obtain ⟨-, hseparator, -⟩ := group_append_inj andSeparator orSeparator rfl hparts hparts' htwo
        ih hrest
      cases hseparator
    | _ => cases hlead
  | any hparts htwo ih =>
    obtain ⟨hlead, hrest⟩ := lead_eq_of_chars (.any hparts htwo) hd h
    cases hd with
    | all hparts' htwo' =>
      obtain ⟨-, hseparator, -⟩ := group_append_inj orSeparator andSeparator rfl hparts hparts' htwo
        ih hrest
      cases hseparator
    | any hparts' htwo' =>
      obtain ⟨rfl, -, hrs⟩ := group_append_inj orSeparator orSeparator rfl hparts hparts' htwo ih
        hrest
      exact ⟨rfl, hrs⟩
    | _ => cases hlead

/-- Conditions side by side are determined by the text of all of them up to a closing
parenthesis. -/
theorem guard_append_inj {cs ds : List Condition} {r s : List Char} (hcs : ∀ c ∈ cs, c.Plain)
    (hds : ∀ d ∈ ds, d.Plain) (h : guard cs ++ ')' :: r = guard ds ++ ')' :: s) :
    cs = ds ∧ r = s := by
  unfold guard at h
  rw [andSeparator] at h
  obtain ⟨hlist, -, hrs⟩ := joined_append_inj (by decide) rfl (fun c hc => (hcs c hc).opens)
    (fun d hd => (hds d hd).opens)
    (fun c hc d hd _ _ hx hy hxy => (hcs c hc).chars_append_inj (hds d hd) hx hy hxy) h
  exact ⟨hlist, hrs⟩

end Condition

end GridOutage.Filter
