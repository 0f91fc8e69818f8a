/-!
# Sets of texts

A set of texts is held as the list of its members in increasing order of their characters, so two
sets with the same members are equal.
-/
namespace GridOutage

structure TextSet where
  members : List String
  increasing : members.Pairwise (· < ·) := by decide
  deriving DecidableEq

namespace TextSet

def empty : TextSet := ⟨[], List.Pairwise.nil⟩

instance : Inhabited TextSet := ⟨empty⟩

def isEmpty (s : TextSet) : Bool := s.members.isEmpty

def size (s : TextSet) : Nat := s.members.length

/-- A text put at its place, unless it is there already. -/
def place (x : String) : List String → List String
  | [] => [x]
  | y :: ys => if x < y then x :: y :: ys else if x = y then y :: ys else y :: place x ys

theorem mem_place {x z : String} {ys : List String} : z ∈ place x ys ↔ z = x ∨ z ∈ ys := by
  induction ys with
  | nil => simp [place]
  | cons y ys ih =>
    unfold place
    split
    · simp
    · split
      · next h => subst h; simp
      · simp only [List.mem_cons, ih]; exact or_left_comm

theorem pairwise_place {x : String} {ys : List String} (h : ys.Pairwise (· < ·)) :
    (place x ys).Pairwise (· < ·) := by
  induction ys with
  | nil => simp [place]
  | cons y ys ih =>
    have ⟨hy, hys⟩ := List.pairwise_cons.1 h
    unfold place
    split
    · next hlt =>
      refine List.pairwise_cons.2 ⟨fun z hz => ?_, h⟩
      rcases List.mem_cons.1 hz with rfl | hz
      · exact hlt
      · exact String.lt_trans hlt (hy z hz)
    · split
      · exact h
      · next hn he =>
        refine List.pairwise_cons.2 ⟨fun z hz => ?_, ih hys⟩
        rcases mem_place.1 hz with rfl | hz
        · by_cases hc : y < z
          · exact hc
          · exact absurd (String.le_antisymm (String.not_lt.1 hc) (String.not_lt.1 hn)) he
        · exact hy z hz

def insert (s : TextSet) (x : String) : TextSet := ⟨place x s.members, pairwise_place s.increasing⟩

def ofList (xs : List String) : TextSet := xs.foldl insert empty

end TextSet

end GridOutage
