import GridOutage.Filter.Script

/-!
# Reading literals and lists

`readLiteral` reads a literal in single quotes; `readLiteral_quoted` says that it takes all of a
quoted text and nothing after it, whatever the text holds. `joined_append_inj` says when a list of
texts is determined by its text with separators up to a closing character, and
`countryList_append_inj` that lists of countries are.
-/
namespace GridOutage.Country

theorem letter_injective {i j : Fin 26} (h : letter i = letter j) : i = j := by
  have hplace := place?_letter i
  rw [h, place?_letter] at hplace
  exact (Option.some.inj hplace).symm

theorem chars_injective {c d : Country} (h : c.chars = d.chars) : c = d := by
  obtain ⟨hfirst, htail⟩ := List.cons.inj h
  obtain ⟨hsecond, -⟩ := List.cons.inj htail
  cases c
  cases d
  rw [mk.injEq]
  exact ⟨letter_injective hfirst, letter_injective hsecond⟩

end GridOutage.Country

namespace GridOutage.Filter

/-! ## Literals -/

/-- A literal after its opening quote, and what follows it. A backslash makes the next character
literal; the first other quote ends the literal. -/
def readQuoted : List Char → Option (List Char × List Char)
  | [] => none
  | '\'' :: rest => some ([], rest)
  | '\\' :: c :: rest => (readQuoted rest).map fun (t, rest) => (c :: t, rest)
  | c :: rest => (readQuoted rest).map fun (t, rest) => (c :: t, rest)

def readLiteral : List Char → Option (List Char × List Char)
  | '\'' :: cs => readQuoted cs
  | _ => none

theorem readQuoted_escaped (c : Char) (cs : List Char) :
    readQuoted (escaped c ++ cs) = (readQuoted cs).map fun (t, rest) => (c :: t, rest) := by
  unfold escaped
  split
  · next h =>
    rcases h with rfl | rfl
    · rfl
    · rfl
  · next h =>
    obtain ⟨hquote, hslash⟩ := not_or.1 h
    exact readQuoted.eq_4 c cs hquote (fun d rest hd _ => hslash hd)

theorem readLiteral_quoted (t rest : List Char) : readLiteral (quoted t ++ rest) = some (t, rest) := by
  have hbody : readQuoted (t.flatMap escaped ++ '\'' :: rest) = some (t, rest) := by
    induction t with
    | nil => rfl
    | cons c t ih => rw [List.flatMap_cons, List.append_assoc, readQuoted_escaped, ih]; rfl
  unfold quoted
  rw [List.append_assoc]
  exact hbody

/-- Neither text of two literals goes on inside the other. -/
theorem quoted_append_inj {t u r s : List Char} (h : quoted t ++ r = quoted u ++ s) :
    t = u ∧ r = s := by
  have hread := readLiteral_quoted t r
  rw [h, readLiteral_quoted] at hread
  obtain ⟨hu, hs⟩ := Prod.mk.inj (Option.some.inj hread)
  exact ⟨hu.symm, hs.symm⟩

/-! ## Texts side by side -/

/-- Where characters of a kind end is determined. -/
theorem append_inj_of_stop {p : Char → Prop} {a b r s : List Char} (ha : ∀ c ∈ a, p c)
    (hb : ∀ c ∈ b, p c) (hr : ∀ c ∈ r.head?, ¬ p c) (hs : ∀ c ∈ s.head?, ¬ p c)
    (h : a ++ r = b ++ s) : a = b ∧ r = s := by
  induction a generalizing b with
  | nil =>
    cases b with
    | nil => exact ⟨rfl, h⟩
    | cons d b =>
      rw [List.nil_append] at h
      subst h
      exact absurd (hb d List.mem_cons_self) (hr d rfl)
  | cons c a ih =>
    cases b with
    | nil =>
      rw [List.nil_append] at h
      subst h
      exact absurd (ha c List.mem_cons_self) (hs c rfl)
    | cons d b =>
      obtain ⟨rfl, htail⟩ := List.cons.inj h
      obtain ⟨rfl, hrest⟩ := ih (fun x hx => ha x (List.mem_cons_of_mem _ hx))
        (fun x hx => hb x (List.mem_cons_of_mem _ hx)) htail
      exact ⟨rfl, hrest⟩

/-! ## Lists -/

/-- A text that starts with a separator or with the character that closes a list. -/
def AtBreak (d close : Char) (cs : List Char) : Prop := cs.head? = some d ∨ cs.head? = some close

theorem AtBreak.stops {d close : Char} {cs : List Char} (h : AtBreak d close cs) {p : Char → Prop}
    (hd : ¬ p d) (hclose : ¬ p close) : ∀ c ∈ cs.head?, ¬ p c := by
  intro c hc
  rcases h with h | h
  · rw [h] at hc
    obtain rfl : d = c := Option.some.inj hc
    exact hd
  · rw [h] at hc
    obtain rfl : close = c := Option.some.inj hc
    exact hclose

/-- What follows the first text of a list up to its end. -/
def afterFirst (d close : Char) (m : List Char) (x : List Char) : List (List Char) → List Char
  | [] => close :: x
  | as => (d :: m) ++ (joined (d :: m) as ++ close :: x)

theorem joined_cons (d close : Char) (m x : List Char) (a : List Char) (as : List (List Char)) :
    joined (d :: m) (a :: as) ++ close :: x = a ++ afterFirst d close m x as := by
  cases as with
  | nil => rfl
  | cons b as => simp [joined, afterFirst]

theorem afterFirst_atBreak (d close : Char) (m x : List Char) (as : List (List Char)) :
    AtBreak d close (afterFirst d close m x as) := by
  cases as with
  | nil => exact .inr rfl
  | cons b as => exact .inl rfl

/-- A text of which the first character does not close a list. -/
def Opens (close : Char) (cs : List Char) : Prop := ∃ c rest, cs = c :: rest ∧ c ≠ close

theorem Opens.append_ne {close : Char} {cs : List Char} (h : Opens close cs) (x y : List Char) :
    cs ++ x ≠ close :: y := by
  obtain ⟨c, rest, rfl, hne⟩ := h
  exact fun heq => hne (List.cons.inj heq).1

/-- A list is determined by its text up to the closing character, if each of its texts is by what
comes up to a separator or that character. Of two texts or more so is the separator. -/
theorem joined_append_inj {α : Type} {text : α → List Char} {d close : Char} {m m' : List Char}
    {as bs : List α} {r s : List Char} (hd : d ≠ close) (hlen : m.length = m'.length)
    (has : ∀ a ∈ as, Opens close (text a)) (hbs : ∀ b ∈ bs, Opens close (text b))
    (hitem : ∀ a ∈ as, ∀ b ∈ bs, ∀ x y, AtBreak d close x → AtBreak d close y →
      text a ++ x = text b ++ y → a = b ∧ x = y)
    (h : joined (d :: m) (as.map text) ++ close :: r =
      joined (d :: m') (bs.map text) ++ close :: s) :
    as = bs ∧ (2 ≤ as.length → m = m') ∧ r = s := by
  induction as generalizing bs with
  | nil =>
    cases bs with
    | nil => exact ⟨rfl, by simp, (List.cons.inj h).2⟩
    | cons b bs =>
      rw [List.map_cons, joined_cons] at h
      exact absurd h.symm ((hbs b List.mem_cons_self).append_ne _ _)
  | cons a as ih =>
    cases bs with
    | nil =>
      rw [List.map_cons, joined_cons] at h
      exact absurd h ((has a List.mem_cons_self).append_ne _ _)
    | cons b bs =>
      rw [List.map_cons, List.map_cons, joined_cons, joined_cons] at h
      obtain ⟨rfl, hrest⟩ := hitem a List.mem_cons_self b List.mem_cons_self _ _
        (afterFirst_atBreak ..) (afterFirst_atBreak ..) h
      cases as with
      | nil =>
        cases bs with
        | nil => exact ⟨rfl, by simp, (List.cons.inj hrest).2⟩
        | cons b' bs => exact absurd (List.cons.inj hrest).1.symm hd
      | cons a' as =>
        cases bs with
        | nil => exact absurd (List.cons.inj hrest).1 hd
        | cons b' bs =>
          obtain ⟨hm, htail⟩ := List.append_inj (List.cons.inj hrest).2 hlen
          obtain ⟨hlist, -, hrs⟩ := ih (fun c hc => has c (List.mem_cons_of_mem _ hc))
            (fun c hc => hbs c (List.mem_cons_of_mem _ hc))
            (fun c hc c' hc' => hitem c (List.mem_cons_of_mem _ hc) c' (List.mem_cons_of_mem _ hc'))
            htail
          exact ⟨by rw [hlist], fun _ => hm, hrs⟩

/-! ## Countries -/

/-- A set of countries is determined by its list, whatever follows. -/
theorem countryList_append_inj {a b : CountrySet} {r s : List Char}
    (h : countryList a ++ r = countryList b ++ s) : a = b ∧ r = s := by
  have hlist (c : CountrySet) (x : List Char) :
      countryList c ++ x = '[' :: (joined [','] (c.members.map fun c => quoted c.chars) ++ ']' :: x) := by
    simp [countryList]
  rw [hlist, hlist] at h
  have hopens (c : Country) : Opens ']' (quoted c.chars) := ⟨'\'', _, rfl, by decide⟩
  obtain ⟨hmembers, -, hrs⟩ := joined_append_inj (by decide) rfl (fun c _ => hopens c)
    (fun c _ => hopens c)
    (fun c _ c' _ x y _ _ hxy => ⟨Country.chars_injective (quoted_append_inj hxy).1,
      (quoted_append_inj hxy).2⟩) (List.cons.inj h).2
  obtain ⟨members, hnodup⟩ := a
  obtain ⟨members', hnodup'⟩ := b
  obtain rfl : members = members' := hmembers
  exact ⟨rfl, hrs⟩

end GridOutage.Filter
