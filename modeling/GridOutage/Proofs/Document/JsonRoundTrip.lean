import Mathlib.Data.List.DropRight
import GridOutage.Document.Format
import GridOutage.Proofs.Document.JsonNumber
import GridOutage.Proofs.Document.Reread

/-!
# JSON read back

`Reads v t` says that the reader takes the value `v` from a text that starts with `t`, and nothing
after it. Texts with this property are put together as JSON is: strings and numbers have it, and
lists and objects have it where their parts do, with blanks anywhere between them. Both writers put
their texts together in that way. So what a program writes on one line or spread over lines reads
back, but for its numbers, which become what the reader makes of their texts (`read_oneLine`,
`read_pretty`). A number that is written in at most fifteen digits is read as itself
(`readsBack_of_short`).
-/
namespace GridOutage.Document

namespace Json

open JsonText (charText stringText compact compactItems compactEntries spread spreadItems
  spreadEntries line oneLine pretty)

/-! ## Blanks -/

def Blank (b : List Char) : Prop := ∀ c ∈ b, isSpace c = true

theorem skip_append {b : List Char} (hb : Blank b) (cs : List Char) : skip (b ++ cs) = skip cs :=
  List.dropWhile_append_of_pos hb

theorem skip_cons {c : Char} (hc : isSpace c = false) (cs : List Char) : skip (c :: cs) = c :: cs :=
  List.dropWhile_cons_of_neg (by rw [hc]; exact Bool.false_ne_true)

theorem skip_skip (cs : List Char) : skip (skip cs) = skip cs := List.dropWhile_idempotent isSpace cs

theorem numberEnds_append {b : List Char} (hb : Blank b) {rest : List Char} (hrest : NumberEnds rest) :
    NumberEnds (b ++ rest) := by
  cases b with
  | nil => exact hrest
  | cons c b =>
    have hc := hb c List.mem_cons_self
    refine numberEnds_cons ?_ _
    simp only [isSpace, Bool.or_eq_true, beq_iff_eq] at hc
    rcases hc with ((rfl | rfl) | rfl) | rfl <;> decide

/-! ## Strings -/

theorem hex4?_control : ∀ n < 32,
    hex4? '0' '0' (Nat.digitChar (n / 16)) (Nat.digitChar (n % 16)) = some n := by
  decide

/-- A character reads back from the way it is written inside a string. -/
theorem string?_charText (c : Char) (done cs : List Char) :
    string? true done (charText c ++ cs) = string? true (c :: done) cs := by
  unfold charText
  split
  · rfl
  · rfl
  · rfl
  · rfl
  · rfl
  · rfl
  · rfl
  · next hquote hslash _ _ _ _ _ =>
    split
    · next hcontrol =>
      have hlow : ¬ (0xD800 ≤ c.toNat ∧ c.toNat < 0xDC00) := by omega
      have hhigh : ¬ (0xDC00 ≤ c.toNat ∧ c.toNat < 0xE000) := by omega
      change string? true done ('\\' :: 'u' :: '0' :: '0' :: _ :: _ :: cs) = _
      rw [string?, hex4?_control _ hcontrol, Option.bind_eq_bind, Option.bind_some, if_neg hlow,
        if_neg hhigh, Char.ofNat_toNat]
    · next hcontrol =>
      change string? true done (c :: cs) = _
      rw [string?.eq_4 _ _ _ _ hquote (fun _ _ _ _ _ h _ => hslash h) (fun _ _ h _ => hslash h),
        if_neg hcontrol]

/-- A string reads back after its opening quote. -/
theorem string?_stringText (s : String) (rest : List Char) :
    string? true [] (s.toList.flatMap charText ++ '"' :: rest) = some (some s, rest) := by
  have hbody (cs done : List Char) : string? true done (cs.flatMap charText ++ '"' :: rest) =
      some (some (String.ofList (done.reverse ++ cs)), rest) := by
    induction cs generalizing done with
    | nil =>
      rw [List.append_nil]
      rfl
    | cons c cs ih =>
      rw [List.flatMap_cons, List.append_assoc, string?_charText, ih, List.reverse_cons,
        List.append_assoc]
      rfl
  rw [hbody, List.reverse_nil, List.nil_append, String.ofList_toList]

/-! ## Values -/

/-- The reader takes the value from a text that starts so, up to where a number can end. -/
def Reads (v : Value) (t : List Char) : Prop :=
  ∀ fuel rest, t.length < fuel → NumberEnds rest → value fuel (t ++ rest) = (v, some rest)

theorem value_append {b : List Char} (hb : Blank b) (fuel : Nat) (cs : List Char) :
    value fuel (b ++ cs) = value fuel cs := by
  cases fuel with
  | zero => rfl
  | succ fuel => rw [value, skip_append hb, value]

theorem Reads.after_blank {v : Value} {t : List Char} (h : Reads v t) {b : List Char}
    (hb : Blank b) : Reads v (b ++ t) := by
  intro fuel rest hfuel hrest
  rw [List.length_append] at hfuel
  rw [List.append_assoc, value_append hb, h fuel rest (by omega) hrest]

theorem reads_str (s : String) : Reads (.str s) (stringText s) := by
  intro fuel rest hfuel _
  obtain ⟨fuel, rfl⟩ := Nat.exists_eq_add_of_le' (Nat.zero_lt_of_lt hfuel)
  unfold stringText
  rw [List.append_assoc]
  change orBroken ((string? true [] (s.toList.flatMap charText ++ '"' :: rest)).map _) = _
  rw [string?_stringText]
  rfl

/-- A text that starts with a digit is a number. -/
theorem value_digit {d : Char} (hd : d.isDigit = true) (fuel : Nat) (cs : List Char) :
    value (fuel + 1) (d :: cs) = orBroken (number? false (d :: cs)) := by
  have hne (c : Char) (hc : c.isDigit = false) : d ≠ c := by
    rintro rfl
    rw [hd] at hc
    cases hc
  have hspace : isSpace d = false := by
    simp [isSpace, hne ' ' (by decide), hne '\n' (by decide), hne '\r' (by decide),
      hne '\t' (by decide)]
  rw [value, skip_cons hspace]
  split
  case h_8 => rfl
  -- What starts with one of the other characters does not start with a digit.
  all_goals
    next heq =>
      obtain ⟨rfl, -⟩ := List.cons.inj heq
      cases hd

theorem read_of_reads {v : Value} {t b : List Char} (h : Reads v t) (hb : Blank b) :
    read (String.ofList (t ++ b)) = (v, true) := by
  have hnil : NumberEnds [] := fun c hc => by cases hc
  have hend : NumberEnds b := by simpa using numberEnds_append hb hnil
  have hskip : skip b = [] := by simpa [skip] using skip_append hb []
  have hvalue := h ((t ++ b).length + 1) b (by rw [List.length_append]; omega) hend
  unfold read
  rw [String.length_ofList, String.toList_ofList, hvalue]
  dsimp only
  rw [hskip]
  rfl

/-! ## Numbers -/

/-- A finite number is written as a sign and parts, and read as these parts are. -/
theorem exists_reread {x : Binary64} (hx : x.isFinite = true) :
    ∃ (negative : Bool) (p : Parts), p.WellFormed ∧ Binary64.ofRank negative p.decimal.rank = x ∧
      JsonText.layout.render x = (if negative then ['-'] else []) ++ p.text ∧
      reread x = p.reading negative ∧ Reads (reread x) (JsonText.layout.render x) := by
  cases x with
  | nan => cases hx
  | number negative rank =>
    have hrank : rank.val < Binary64.topRank := of_decide_eq_true hx
    have hnumber : Binary64.ofRank negative rank = .number negative rank := by
      simp [Binary64.ofRank, Nat.min_eq_left (Nat.le_of_lt hrank)]
    obtain ⟨p, hp, hdecimal, htext, hnumberText⟩ := number?_magnitude hrank
    have hreads : Reads (p.reading negative) (JsonText.layout.render (.number negative rank)) := by
      intro fuel rest hfuel hrest
      obtain ⟨fuel, rfl⟩ := Nat.exists_eq_add_of_le' (Nat.zero_lt_of_lt hfuel)
      have hread := hnumberText negative rest hrest
      cases negative with
      | true =>
        change orBroken (number? true (JsonText.layout.magnitude rank ++ rest)) = _
        rw [hread]
        rfl
      | false =>
        obtain ⟨d, ds, hds, hdigit⟩ := JsonText.layout.magnitude_head (Nat.ne_of_lt hrank)
        change value (fuel + 1) (JsonText.layout.magnitude rank ++ rest) = _
        rw [hds] at hread ⊢
        rw [List.cons_append, value_digit hdigit, ← List.cons_append, hread]
        rfl
    have hreread : reread (.number negative rank) = p.reading negative := by
      have hread := read_of_reads hreads (List.forall_mem_nil _)
      rw [List.append_nil] at hread
      exact congrArg Prod.fst hread
    refine ⟨negative, p, hp, by rw [hdecimal, hnumber], ?_, hreread, hreread ▸ hreads⟩
    rw [Binary64.Layout.render, htext]

theorem reads_reread {x : Binary64} (hx : x.isFinite = true) :
    Reads (reread x) (JsonText.layout.render x) := by
  obtain ⟨_, _, _, _, _, _, hreads⟩ := exists_reread hx
  exact hreads

/-- A number is read from the text of a finite one, unless it is too large. -/
theorem reread_cases {x : Binary64} (hx : x.isFinite = true) :
    (∃ y, reread x = .real y) ∨ reread x = .unusable := by
  obtain ⟨negative, p, _, _, _, hreread, _⟩ := exists_reread hx
  rw [hreread, Parts.reading]
  split
  · exact .inl ⟨_, rfl⟩
  · exact .inr rfl

/-- The reader takes the values of a list from a text that goes on with the closing bracket. -/
def ReadsItems (vs : List Value) (t : List Char) : Prop :=
  ∀ fuel rest, t.length + 1 < fuel → items fuel (t ++ ']' :: rest) = (vs, some rest)

theorem items_skip (fuel : Nat) (cs : List Char) : items fuel (skip cs) = items fuel cs := by
  have hvalue (n : Nat) : value n (skip cs) = value n cs := by
    cases n with
    | zero => rfl
    | succ n => rw [value, skip_skip, value]
  cases fuel with
  | zero => rfl
  | succ fuel => rw [items, hvalue, items]

theorem readsItems_one {v : Value} {t b : List Char} (h : Reads v t) (hb : Blank b) :
    ReadsItems [v] (t ++ b) := by
  intro fuel rest hfuel
  obtain ⟨fuel, rfl⟩ := Nat.exists_eq_add_of_le' (Nat.zero_lt_of_lt hfuel)
  rw [List.length_append] at hfuel
  have hend : NumberEnds (b ++ ']' :: rest) := numberEnds_append hb (numberEnds_cons (by decide) _)
  rw [items, List.append_assoc, h fuel _ (by omega) hend]
  dsimp only
  rw [skip_append hb, skip_cons (by decide)]
  rfl

theorem readsItems_more {v : Value} {vs : List Value} {t u : List Char} (h : Reads v t)
    (hvs : ReadsItems vs u) : ReadsItems (v :: vs) (t ++ ',' :: u) := by
  intro fuel rest hfuel
  obtain ⟨fuel, rfl⟩ := Nat.exists_eq_add_of_le' (Nat.zero_lt_of_lt hfuel)
  rw [List.length_append, List.length_cons] at hfuel
  have hend : NumberEnds (',' :: (u ++ ']' :: rest)) := numberEnds_cons (by decide) _
  rw [items, List.append_assoc, List.cons_append, h fuel _ (by omega) hend]
  dsimp only
  rw [skip_cons (by decide)]
  change (v :: (items fuel (u ++ ']' :: rest)).1, (items fuel (u ++ ']' :: rest)).2) = _
  rw [hvs fuel rest (by omega)]

theorem value_bracket (fuel : Nat) (r : List Char) :
    value (fuel + 1) ('[' :: r) = match skip r with
      | ']' :: rest => (.arr [], some rest)
      | r => (.arr (items fuel r).1, (items fuel r).2) :=
  rfl

/-- A closing bracket is no value. -/
theorem items_bracket (fuel : Nat) (r : List Char) : (items fuel (']' :: r)).2 = none := by
  cases fuel with
  | zero => rfl
  | succ fuel => cases fuel <;> rfl

theorem reads_arr {vs : List Value} {t : List Char} (h : ReadsItems vs t) :
    Reads (.arr vs) ('[' :: t ++ [']']) := by
  intro fuel rest hfuel _
  obtain ⟨fuel, rfl⟩ := Nat.exists_eq_add_of_le' (Nat.zero_lt_of_lt hfuel)
  simp only [List.length_append, List.length_cons, List.length_nil] at hfuel
  have hitems := h fuel rest (by omega)
  rw [← items_skip] at hitems
  rw [List.append_assoc, List.cons_append, List.singleton_append, value_bracket]
  generalize skip (t ++ ']' :: rest) = cs at hitems ⊢
  split
  · next r =>
    have hnone := items_bracket fuel r
    rw [hitems] at hnone
    cases hnone
  · rw [hitems]

theorem reads_arr_nil : Reads (.arr []) ['[', ']'] := by
  intro fuel rest hfuel _
  obtain ⟨fuel, rfl⟩ := Nat.exists_eq_add_of_le' (Nat.zero_lt_of_lt hfuel)
  rfl

/-! ## Objects -/

/-- The text of an entry: its name and a text its value is read from. -/
def ReadsEntry (e : String × Value) (t : List Char) : Prop :=
  ∃ b u, Blank b ∧ Reads e.2 u ∧ t = b ++ (stringText e.1 ++ ':' :: u)

/-- The reader takes the entries of an object from a text that goes on with the closing brace. -/
def ReadsEntries (es : List (String × Value)) (t : List Char) : Prop :=
  ∀ fuel rest, t.length + 1 < fuel → entries fuel (t ++ '\x7d' :: rest) = (es, some rest)

theorem entries_skip (fuel : Nat) (cs : List Char) : entries fuel (skip cs) = entries fuel cs := by
  cases fuel with
  | zero => rfl
  | succ fuel => rw [entries, skip_skip, entries]

/-- After the name of an entry comes its value, and then the closing brace or a comma. -/
theorem entries_name {b : List Char} (hb : Blank b) (k : String) {fuel : Nat} {cs tail : List Char}
    {v : Value} (hv : value fuel cs = (v, some tail)) (rest : List Char) :
    (skip tail = '\x7d' :: rest →
      entries (fuel + 1) (b ++ (stringText k ++ ':' :: cs)) = ([(k, v)], some rest)) ∧
    (skip tail = ',' :: rest →
      entries (fuel + 1) (b ++ (stringText k ++ ':' :: cs)) =
        ((k, v) :: (entries fuel rest).1, (entries fuel rest).2)) := by
  have htext : stringText k ++ ':' :: cs = '"' :: (k.toList.flatMap charText ++ '"' :: ':' :: cs) := by
    simp [stringText]
  have hcolon : skip (':' :: cs) = ':' :: cs := skip_cons (by decide) cs
  rw [entries, skip_append hb, htext, skip_cons (by decide)]
  simp only [string?_stringText, hcolon, hv]
  constructor <;> intro htail <;> simp only [htail]

theorem readsEntries_one {e : String × Value} {t b : List Char} (h : ReadsEntry e t)
    (hb : Blank b) : ReadsEntries [e] (t ++ b) := by
  obtain ⟨k, v⟩ := e
  obtain ⟨a, u, ha, hv, rfl⟩ := h
  intro fuel rest hfuel
  obtain ⟨fuel, rfl⟩ := Nat.exists_eq_add_of_le' (Nat.zero_lt_of_lt hfuel)
  simp only [List.length_append, List.length_cons] at hfuel
  have hend : NumberEnds (b ++ '\x7d' :: rest) :=
    numberEnds_append hb (numberEnds_cons (by decide) _)
  rw [show a ++ (stringText k ++ ':' :: u) ++ b ++ '\x7d' :: rest =
    a ++ (stringText k ++ ':' :: (u ++ (b ++ '\x7d' :: rest))) by simp,
    (entries_name ha k (hv fuel _ (by omega) hend) rest).1]
  rw [skip_append hb, skip_cons (by decide)]

theorem readsEntries_more {e : String × Value} {es : List (String × Value)} {t w : List Char}
    (h : ReadsEntry e t) (hes : ReadsEntries es w) : ReadsEntries (e :: es) (t ++ ',' :: w) := by
  obtain ⟨k, v⟩ := e
  obtain ⟨a, u, ha, hv, rfl⟩ := h
  intro fuel rest hfuel
  obtain ⟨fuel, rfl⟩ := Nat.exists_eq_add_of_le' (Nat.zero_lt_of_lt hfuel)
  simp only [List.length_append, List.length_cons] at hfuel
  have hend : NumberEnds (',' :: (w ++ '\x7d' :: rest)) := numberEnds_cons (by decide) _
  rw [show a ++ (stringText k ++ ':' :: u) ++ ',' :: w ++ '\x7d' :: rest =
    a ++ (stringText k ++ ':' :: (u ++ ',' :: (w ++ '\x7d' :: rest))) by simp,
    (entries_name ha k (hv fuel _ (by omega) hend) _).2 (skip_cons (by decide) _),
    hes fuel rest (by omega)]

theorem value_brace (fuel : Nat) (r : List Char) :
    value (fuel + 1) ('\x7b' :: r) = match skip r with
      | '\x7d' :: rest => (.obj [], some rest)
      | r => (.obj (entries fuel r).1, (entries fuel r).2) :=
  rfl

/-- A closing brace is no name. -/
theorem entries_brace (fuel : Nat) (r : List Char) : (entries fuel ('\x7d' :: r)).2 = none := by
  cases fuel <;> rfl

theorem reads_obj {es : List (String × Value)} {t : List Char} (h : ReadsEntries es t) :
    Reads (.obj es) ('\x7b' :: t ++ ['\x7d']) := by
  intro fuel rest hfuel _
  obtain ⟨fuel, rfl⟩ := Nat.exists_eq_add_of_le' (Nat.zero_lt_of_lt hfuel)
  simp only [List.length_append, List.length_cons, List.length_nil] at hfuel
  have hentries := h fuel rest (by omega)
  rw [← entries_skip] at hentries
  rw [List.append_assoc, List.cons_append, List.singleton_append, value_brace]
  generalize skip (t ++ '\x7d' :: rest) = cs at hentries ⊢
  split
  · next r =>
    have hnone := entries_brace fuel r
    rw [hentries] at hnone
    cases hnone
  · rw [hentries]

theorem reads_obj_nil : Reads (.obj []) ['\x7b', '\x7d'] := by
  intro fuel rest hfuel _
  obtain ⟨fuel, rfl⟩ := Nat.exists_eq_add_of_le' (Nat.zero_lt_of_lt hfuel)
  rfl

/-! ## Texts with commas between them -/

/-- Texts with commas between them and a blank at the end. -/
def separated (b : List Char) : List (List Char) → List Char
  | [] => []
  | [t] => t ++ b
  | t :: u :: ts => t ++ ',' :: separated b (u :: ts)

section

variable {α : Type} {b : List Char} (hb : Blank b) {a : α} {as : List α}

include hb

theorem readsItems_separated {item : α → Value} {text : α → List Char}
    (h : ∀ x ∈ a :: as, Reads (item x) (text x)) :
    ReadsItems ((a :: as).map item) (separated b ((a :: as).map text)) := by
  induction as generalizing a with
  | nil => exact readsItems_one (h a List.mem_cons_self) hb
  | cons x as ih =>
    obtain ⟨ha, h⟩ := List.forall_mem_cons.1 h
    exact readsItems_more ha (ih h)

theorem readsEntries_separated {entry : α → String × Value} {text : α → List Char}
    (h : ∀ x ∈ a :: as, ReadsEntry (entry x) (text x)) :
    ReadsEntries ((a :: as).map entry) (separated b ((a :: as).map text)) := by
  induction as generalizing a with
  | nil => exact readsEntries_one (h a List.mem_cons_self) hb
  | cons x as ih =>
    obtain ⟨ha, h⟩ := List.forall_mem_cons.1 h
    exact readsEntries_more ha (ih h)

end

/-! ## On one line -/

theorem compactItems_eq (vs : List Value) : compactItems vs = separated [] (vs.map compact) := by
  induction vs with
  | nil => rfl
  | cons v vs ih =>
    cases vs with
    | nil => exact (List.append_nil _).symm
    | cons w vs => rw [compactItems, ih]; rfl

/-- An entry on one line. -/
def compactEntry (e : String × Value) : List Char := stringText e.1 ++ ':' :: compact e.2

theorem compactEntries_eq (es : List (String × Value)) :
    compactEntries es = separated [] (es.map compactEntry) := by
  induction es with
  | nil => rfl
  | cons e es ih =>
    cases es with
    | nil => exact (List.append_nil _).symm
    | cons d es => rw [compactEntries, ih]; rfl

theorem reads_compact {n : Nat} {v : Value} (h : v.Written (·.isFinite) n) :
    Reads v.reread (compact v) := by
  have hblank : Blank [] := List.forall_mem_nil _
  induction h with
  | str s => exact reads_str s
  | real h => exact reads_reread h
  | @arr _ items _ ih =>
    cases items with
    | nil => exact reads_arr_nil
    | cons v vs =>
      rw [compact, compactItems_eq, Value.reread, Value.rereadItems_eq]
      exact reads_arr (readsItems_separated hblank ih)
  | @obj _ entries _ ih =>
    cases entries with
    | nil => exact reads_obj_nil
    | cons e es =>
      rw [compact, compactEntries_eq, Value.reread, Value.rereadEntries_eq]
      exact reads_obj (readsEntries_separated hblank fun d hd => ⟨[], _, hblank, ih d hd, rfl⟩)

/-! ## Spread over lines -/

theorem blank_line (level : Nat) : Blank (line level) := by
  refine List.forall_mem_cons.2 ⟨rfl, fun c hc => ?_⟩
  rw [List.eq_of_mem_replicate hc]
  rfl

theorem spreadItems_eq (level : Nat) (b : List Char) {vs : List Value} (hne : vs ≠ []) :
    spreadItems level vs ++ b = separated b (vs.map fun v => line level ++ spread level v) := by
  induction vs with
  | nil => exact absurd rfl hne
  | cons v vs ih =>
    cases vs with
    | nil => rfl
    | cons w vs =>
      rw [spreadItems, List.append_assoc, List.cons_append, ih (List.cons_ne_nil _ _)]
      rfl

/-- An entry on its own lines. -/
def spreadEntry (level : Nat) (e : String × Value) : List Char :=
  line level ++ (stringText e.1 ++ ':' :: ' ' :: spread level e.2)

theorem spreadEntries_eq (level : Nat) (b : List Char) {es : List (String × Value)} (hne : es ≠ []) :
    spreadEntries level es ++ b = separated b (es.map (spreadEntry level)) := by
  induction es with
  | nil => exact absurd rfl hne
  | cons e es ih =>
    cases es with
    | nil => simp [spreadEntries, spreadEntry, separated]
    | cons d es =>
      rw [spreadEntries, List.append_assoc, List.cons_append, ih (List.cons_ne_nil _ _)]
      simp [spreadEntry, separated]

theorem reads_spread {n : Nat} {v : Value} (h : v.Written (·.isFinite) n) (level : Nat) :
    Reads v.reread (spread level v) := by
  induction h generalizing level with
  | str s => exact reads_str s
  | real h => exact reads_reread h
  | @arr _ items _ ih =>
    cases items with
    | nil => exact reads_arr_nil
    | cons v vs =>
      rw [spread, List.cons_append, spreadItems_eq _ _ (List.cons_ne_nil _ _), Value.reread,
        Value.rereadItems_eq]
      exact reads_arr (readsItems_separated (blank_line level) fun w hw =>
        (ih w hw _).after_blank (blank_line _))
  | @obj _ entries _ ih =>
    cases entries with
    | nil => exact reads_obj_nil
    | cons e es =>
      have hspace : Blank [' '] := List.forall_mem_singleton.2 rfl
      rw [spread, List.cons_append, spreadEntries_eq _ _ (List.cons_ne_nil _ _), Value.reread,
        Value.rereadEntries_eq]
      exact reads_obj (readsEntries_separated (blank_line level) fun d hd =>
        ⟨_, _, blank_line _, (ih d hd _).after_blank hspace, rfl⟩)

/-! ## Whole texts -/

section

variable {n : Nat} {v : Value} (h : v.Written (·.isFinite) n)

include h

/-- What a program writes on one line reads back, but for its numbers. -/
theorem read_oneLine : read (oneLine v) = (v.reread, true) := by
  simpa [oneLine] using read_of_reads (reads_compact h) (List.forall_mem_nil _)

/-- What a program spreads over lines reads back in the same way. -/
theorem read_pretty : read (pretty v) = (v.reread, true) := by
  simpa [pretty] using read_of_reads (reads_spread h 0) (List.forall_mem_nil _)

/-- A line break may follow. -/
theorem read_pretty_line : read (pretty v ++ "\n") = (v.reread, true) := by
  have hbreak : Blank ['\n'] := List.forall_mem_singleton.2 rfl
  have hread := read_of_reads (reads_spread h 0) hbreak
  rwa [String.ofList_append] at hread

end

end Json

/-! ## What was read -/

namespace Value.Written

open Json (reread_cases)

variable {n : Nat} {v : Value}

theorem breaks_reread (h : v.Written (·.isFinite) n) : v.reread.breaks = false := by
  induction h with
  | str s => rfl
  | real h => rcases reread_cases h with ⟨y, hy⟩ | hy <;> rw [reread, hy] <;> rfl
  | arr _ ih =>
    rw [reread, rereadItems_eq, Value.breaks, anyBreaks_eq, List.any_map, List.any_eq_false]
    exact fun v hv => by rw [Function.comp, ih v hv]; exact Bool.false_ne_true
  | obj _ ih =>
    rw [reread, rereadEntries_eq, Value.breaks, entryBreaks_eq, List.any_map, List.any_eq_false]
    exact fun e he => by rw [Function.comp, ih e he]; exact Bool.false_ne_true

/-- Where every number is read as some number, the value is readable. -/
theorem readable_reread (h : v.Written (fun x => ∃ y, Json.reread x = .real y) n) :
    v.reread.readable = true := by
  induction h with
  | str s => rfl
  | real h =>
    obtain ⟨y, hy⟩ := h
    rw [reread, hy]
    rfl
  | arr _ ih =>
    rw [reread, rereadItems_eq, Value.readable, readableItems_eq, List.all_map, List.all_eq_true]
    exact ih
  | obj _ ih =>
    rw [reread, rereadEntries_eq, Value.readable, readableEntries_eq, List.all_map, List.all_eq_true]
    exact ih

theorem settled_reread (h : v.Written (·.isFinite) n) : v.reread.settled = v.reread := by
  induction h with
  | str s => rfl
  | real h => rcases reread_cases h with ⟨y, hy⟩ | hy <;> rw [reread, hy] <;> rfl
  | arr _ ih =>
    rw [reread, rereadItems_eq, Value.settled, settledItems_eq, List.map_map]
    exact congrArg Value.arr (List.map_congr_left ih)
  | obj _ ih =>
    rw [reread, rereadEntries_eq, Value.settled, settledEntries_eq, List.map_map]
    exact congrArg Value.obj (List.map_congr_left fun e he => congrArg (e.1, ·) (ih e he))

theorem limited_reread (h : v.Written (·.isFinite) n) : v.reread.limited n = v.reread := by
  induction h with
  | str s => rfl
  | real h => rcases reread_cases h with ⟨y, hy⟩ | hy <;> rw [reread, hy] <;> rfl
  | arr _ ih =>
    rw [reread, rereadItems_eq, Value.limited, limitedItems_eq, List.map_map]
    exact congrArg Value.arr (List.map_congr_left ih)
  | obj _ ih =>
    rw [reread, rereadEntries_eq, Value.limited, limitedEntries_eq, List.map_map]
    exact congrArg Value.obj (List.map_congr_left fun e he => congrArg (e.1, ·) (ih e he))

end Value.Written

section

variable {α : Type} {d : Origin → Decoder α} {n : Nat} {v : Value}

theorem decodeJson_of_read {text : String} (hread : Json.read text = (v, true)) :
    decodeJson d text = d .json v := by
  rw [decodeJson, decodeRead, hread]
  cases d .json v <;> rfl

/-- A text that was written as JSON decodes as the value does, but for its numbers. -/
theorem decodeJson_oneLine (h : v.Written (·.isFinite) n) :
    decodeJson d (JsonText.oneLine v) = d .json v.reread :=
  decodeJson_of_read (Json.read_oneLine h)

theorem decodeJson_pretty (h : v.Written (·.isFinite) n) :
    decodeJson d (JsonText.pretty v) = d .json v.reread :=
  decodeJson_of_read (Json.read_pretty h)

end

end GridOutage.Document
