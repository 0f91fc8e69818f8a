import GridOutage.Proofs.Filter.Literal

/-!
# No text escapes its literal

A quoted text is read back whatever it holds and whatever follows it: the literal ends with its last
character, no earlier (`readQuoted_append` carries what was read over to longer texts) and no later.

Quoting is defined character by character. It can also be written as two replacements over the whole
text, of the backslashes first and of the quotes in what came out: `flatMap_escaped` says that the
second replacement finds the quotes of the text only and leaves the backslashes of the first alone.
The other way round it would not (see the example at the end).
-/
namespace GridOutage.Filter

/-! ## Reading further -/

/-- A literal that was read is read alike from a text that goes on. -/
theorem readQuoted_append {cs t rest : List Char} (h : readQuoted cs = some (t, rest))
    (more : List Char) : readQuoted (cs ++ more) = some (t, rest ++ more) := by
  fun_induction readQuoted cs generalizing t with
  | case1 => cases h
  | case2 tail =>
    obtain ⟨rfl, rfl⟩ := Prod.mk.inj (Option.some.inj h)
    rfl
  | case3 c tail ih =>
    obtain ⟨⟨u, after⟩, hu, heq⟩ := Option.map_eq_some_iff.1 h
    obtain ⟨rfl, rfl⟩ := Prod.mk.inj heq
    rw [List.cons_append, List.cons_append, readQuoted, ih hu]
    rfl
  | case4 c tail hquote hslash ih =>
    obtain ⟨⟨u, after⟩, hu, heq⟩ := Option.map_eq_some_iff.1 h
    obtain ⟨rfl, rfl⟩ := Prod.mk.inj heq
    -- A backslash at the end leaves its literal open, so there is a character after it.
    have hpair (d : Char) (next : List Char) (hc : c = '\\') (hn : tail ++ more = d :: next) :
        False := by
      cases tail with
      | nil => cases hu
      | cons e tail => exact hslash e tail hc rfl
    rw [List.cons_append, readQuoted.eq_4 c _ hquote hpair, ih hu]
    rfl

theorem readLiteral_append {cs t rest : List Char} (h : readLiteral cs = some (t, rest))
    (more : List Char) : readLiteral (cs ++ more) = some (t, rest ++ more) := by
  unfold readLiteral at h
  split at h
  · exact readQuoted_append h more
  · cases h

/-- A quoted text is a literal from its last character on. -/
theorem isSome_readLiteral_take_iff (t : List Char) (n : Nat) :
    (readLiteral ((quoted t).take n)).isSome = true ↔ (quoted t).length ≤ n := by
  constructor
  · intro h
    obtain ⟨⟨u, rest⟩, hread⟩ := Option.isSome_iff_exists.1 h
    have hwhole := readLiteral_append hread ((quoted t).drop n)
    have hquoted := readLiteral_quoted t []
    rw [List.take_append_drop] at hwhole
    rw [List.append_nil, hwhole] at hquoted
    obtain ⟨-, hnil⟩ := Prod.mk.inj (Option.some.inj hquoted)
    exact List.drop_eq_nil_iff.1 (List.append_eq_nil_iff.1 hnil).2
  · intro h
    have hquoted := readLiteral_quoted t []
    rw [List.append_nil] at hquoted
    rw [List.take_of_length_le h, hquoted]
    rfl

/-! ## Replacing in a whole text -/

/-- A text with another one in the place of each occurrence of a character. -/
def replaced (c : Char) (text cs : List Char) : List Char :=
  cs.flatMap fun d => if d = c then text else [d]

theorem replaced_append (c : Char) (text cs ds : List Char) :
    replaced c text (cs ++ ds) = replaced c text cs ++ replaced c text ds :=
  List.flatMap_append

theorem escaped_eq_replaced (c : Char) :
    escaped c = replaced '\'' ['\\', '\''] (replaced '\\' ['\\', '\\'] [c]) := by
  by_cases hquote : c = '\''
  · subst hquote
    decide
  · by_cases hslash : c = '\\'
    · subst hslash
      decide
    · simp [escaped, replaced, hquote, hslash]

theorem flatMap_escaped (cs : List Char) :
    cs.flatMap escaped = replaced '\'' ['\\', '\''] (replaced '\\' ['\\', '\\'] cs) := by
  induction cs with
  | nil => rfl
  | cons c cs ih =>
    calc (c :: cs).flatMap escaped = escaped c ++ cs.flatMap escaped := List.flatMap_cons
      _ = replaced '\'' ['\\', '\''] (replaced '\\' ['\\', '\\'] [c] ++
            replaced '\\' ['\\', '\\'] cs) := by
          rw [escaped_eq_replaced, ih, replaced_append]
      _ = replaced '\'' ['\\', '\''] (replaced '\\' ['\\', '\\'] (c :: cs)) := by
          rw [← replaced_append, List.singleton_append]

/-! ## Quoted texts -/

theorem toList_quote (t : String) : (quote t).toList = quoted t.toList := by
  rw [quote, String.toList_ofList]

/-- A text is read back from its literal, with what follows it left over; no part of the literal
before its end is a literal. Texts with the same literal are the same, and no literal is the start
of another one. The literal is the text with its backslashes and then its quotes escaped. -/
theorem literal_contained (t u r : String) :
    readLiteral (quote t ++ r).toList = some (t.toList, r.toList) ∧
      (∀ n, (readLiteral ((quote t).toList.take n)).isSome = true ↔ (quote t).toList.length ≤ n) ∧
      (quote t = quote u ↔ t = u) ∧
      ((quote t).toList <+: (quote u).toList ↔ t = u) ∧
      (quote t).toList = '\'' ::
        replaced '\'' ['\\', '\''] (replaced '\\' ['\\', '\\'] t.toList) ++ ['\''] := by
  have hprefix : (quote t).toList <+: (quote u).toList ↔ t = u := by
    constructor
    · rintro ⟨rest, hrest⟩
      rw [toList_quote, toList_quote, ← List.append_nil (quoted u.toList)] at hrest
      exact String.toList_inj.1 (quoted_append_inj hrest).1
    · rintro rfl
      exact List.prefix_rfl
  refine ⟨?_, fun n => ?_, ⟨fun h => ?_, congrArg quote⟩, hprefix, ?_⟩
  · rw [String.toList_append, toList_quote, readLiteral_quoted]
  · rw [toList_quote]
    exact isSome_readLiteral_take_iff t.toList n
  · exact hprefix.1 (h ▸ List.prefix_rfl)
  · rw [toList_quote, quoted, flatMap_escaped]

/-- With the quotes escaped first, the literal of a quote would end at that quote. -/
example :
    let swapped := replaced '\\' ['\\', '\\'] (replaced '\'' ['\\', '\''] ['\''])
    readLiteral ('\'' :: swapped ++ ['\'']) = some (['\\'], ['\'']) := by decide

end GridOutage.Filter
