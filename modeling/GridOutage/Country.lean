import GridOutage.Text.Blank

/-!
# Countries (`country` of ctg-core)

A country is an ISO 3166-1 alpha-2 code, two capital letters. A `CountrySet` keeps its members in
the order in which they were first added; two sets are the `same` when they have the same
members in any order.
-/
namespace GridOutage

/-- A two-letter code, each letter by its place in the alphabet. -/
structure Country where
  first : Fin 26
  second : Fin 26
  deriving DecidableEq

namespace Country

/-- The capital letter at a place in the alphabet. -/
def letter (i : Fin 26) : Char := Char.ofNat ('A'.toNat + i)

/-- The place of an ASCII letter of either case. -/
def place? (c : Char) : Option (Fin 26) :=
  let n := c.toUpper.toNat
  if h : 'A'.toNat ≤ n ∧ n ≤ 'Z'.toNat then some ⟨n - 'A'.toNat, by
    have : 'Z'.toNat = 'A'.toNat + 25 := rfl
    omega⟩
  else none

def chars (c : Country) : List Char := [letter c.first, letter c.second]

def code (c : Country) : String := String.ofList c.chars

/-- The country of a text that, blanks at its ends apart, is two ASCII letters. Mirrors
`Country::new`. -/
def ofText? (s : String) : Option Country :=
  match Text.trimChars s.toList with
  | [a, b] => do return ⟨← place? a, ← place? b⟩
  | _ => none

theorem place?_letter (i : Fin 26) : place? (letter i) = some i := by
  revert i; decide

end Country

/-- Countries without repetition, in the order of their first occurrence. -/
structure CountrySet where
  members : List Country
  nodup : members.Nodup := by decide
  deriving DecidableEq

namespace CountrySet

def empty : CountrySet := ⟨[], List.nodup_nil⟩

instance : Inhabited CountrySet := ⟨empty⟩

def contains (s : CountrySet) (c : Country) : Bool := s.members.contains c

def isEmpty (s : CountrySet) : Bool := s.members.isEmpty

/-- The set with a country added at the end, unless it is in the set already. -/
def insert (s : CountrySet) (c : Country) : CountrySet :=
  if h : c ∈ s.members then s
  else ⟨s.members ++ [c], by
    rw [List.nodup_append]
    exact ⟨s.nodup, by simp, fun a ha b hb => by
      rw [List.mem_singleton] at hb; subst hb; exact fun e => h (e ▸ ha)⟩⟩

/-- Mirrors `country_set`. -/
def ofList (cs : List Country) : CountrySet := cs.foldl insert empty

/-- The same members, in whatever order. -/
def same (s t : CountrySet) : Bool :=
  s.members.length == t.members.length && s.members.all t.contains

end CountrySet

end GridOutage
