/-!
# Sets of code points

Character classes of the Unicode standard are given as increasing lists of ranges.  A look-up
walks the list and stops at the first range that begins after the character.
-/

namespace TutorialKit
namespace Text

/-- Ranges of code points, both ends included, in increasing order. -/
abbrev CodePoints := List (Nat × Nat)

namespace CodePoints

def member (n : Nat) : CodePoints -> Bool
  | [] => false
  | (first, last) :: rest =>
      if n < first then false
      else if n <= last then true
      else member n rest

def contains (set : CodePoints) (c : Char) : Bool :=
  set.member c.toNat

@[simp] theorem member_nil (n : Nat) : member n [] = false := rfl

theorem member_cons (n first last : Nat) (rest : CodePoints) :
    member n ((first, last) :: rest) =
      if n < first then false else if n <= last then true else member n rest := rfl

theorem exists_range_of_member {n : Nat} {set : CodePoints} (h : member n set = true) :
    ∃ range, range ∈ set ∧ range.1 <= n ∧ n <= range.2 := by
  induction set with
  | nil => simp at h
  | cons range rest ih =>
      obtain ⟨first, last⟩ := range
      rw [member_cons] at h
      split at h
      · simp at h
      · rename_i hfirst
        split at h
        · rename_i hlast
          exact ⟨(first, last), List.mem_cons_self, by omega, hlast⟩
        · obtain ⟨range, hmem, hrange⟩ := ih h
          exact ⟨range, List.mem_cons_of_mem _ hmem, hrange⟩

end CodePoints

end Text
end TutorialKit
