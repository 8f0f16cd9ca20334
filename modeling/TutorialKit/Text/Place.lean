/-!
# Places in a text

A byte offset is shown as a line and a column, both counted from one.  Lines end at line feeds and
columns count characters.  An offset inside a character counts as its beginning, and one beyond the
end as the end.
-/

namespace TutorialKit
namespace Text

structure Place where
  line : Nat
  column : Nat
  deriving DecidableEq

/-- The longest beginning of a text that takes at most `offset` bytes. -/
def before (offset : Nat) : List Char -> List Char
  | [] => []
  | c :: rest => if c.utf8Size <= offset then c :: before (offset - c.utf8Size) rest else []

namespace Place

def after (cs : List Char) : Place where
  line := cs.count '\n' + 1
  column := (cs.reverse.takeWhile (· != '\n')).length + 1

def ofOffset (cs : List Char) (offset : Nat) : Place :=
  after (before offset cs)

end Place

theorem exists_eq_before_append (offset : Nat) (cs : List Char) :
    ∃ rest, cs = before offset cs ++ rest := by
  induction cs generalizing offset with
  | nil => exact ⟨[], rfl⟩
  | cons c cs ih =>
      rw [before]
      split
      · obtain ⟨rest, hrest⟩ := ih (offset - c.utf8Size)
        exact ⟨rest, by rw [List.cons_append, ← hrest]⟩
      · exact ⟨c :: cs, rfl⟩

end Text
end TutorialKit
