import TutorialKit.Proofs.Script.Reporting

/-!
# Code that has been indented

Code stands further to the right in a script than its author wrote it.  Its lines are all there, one
for one, and the code is found again when the indentation is taken from every line, but for a line
break that its last line may have lacked.
-/

namespace TutorialKit

namespace Text

/-!
# Lines with their line breaks

Lines are kept together with their breaks here, so that no break gets lost or is made up.
-/

/-- The lines of a text, each with the line break it ends with.  The last one may have none. -/
def wholeLines : List Char -> List (List Char)
  | [] => []
  | c :: rest =>
      if c = '\n' then
        [c] :: wholeLines rest
      else
        match wholeLines rest with
        | [] => [[c]]
        | line :: more => (c :: line) :: more

def withFinalBreak (cs : List Char) : List Char :=
  if cs = [] ∨ cs.getLast? = some '\n' then cs else cs ++ ['\n']

theorem flatten_wholeLines (cs : List Char) : (wholeLines cs).flatten = cs := by
  induction cs with
  | nil => rfl
  | cons c rest ih =>
      rw [wholeLines]
      split
      · rw [List.flatten_cons, ih, List.singleton_append]
      · cases hrest : wholeLines rest with
        | nil =>
            rw [hrest] at ih
            rw [← ih]
            rfl
        | cons line more =>
            rw [hrest, List.flatten_cons] at ih
            rw [List.flatten_cons, List.cons_append, ih]

theorem ne_nil_of_mem_wholeLines {cs line : List Char} (h : line ∈ wholeLines cs) : line ≠ [] := by
  induction cs generalizing line with
  | nil => cases h
  | cons c rest ih =>
      rw [wholeLines] at h
      split at h
      · rcases List.mem_cons.mp h with rfl | h
        · exact List.cons_ne_nil _ _
        · exact ih h
      · cases hrest : wholeLines rest with
        | nil =>
            rw [hrest] at h
            rw [List.mem_singleton.mp h]
            exact List.cons_ne_nil _ _
        | cons first more =>
            rw [hrest] at h ih
            rcases List.mem_cons.mp h with rfl | h
            · exact List.cons_ne_nil _ _
            · exact ih (List.mem_cons_of_mem _ h)

theorem wholeLines_eq_nil_iff {cs : List Char} : wholeLines cs = [] ↔ cs = [] := by
  constructor
  · intro h
    rw [← flatten_wholeLines cs, h]
    rfl
  · rintro rfl
    rfl

theorem wholeLines_line {line : List Char} (h : '\n' ∉ line) (rest : List Char) :
    wholeLines (line ++ '\n' :: rest) = (line ++ ['\n']) :: wholeLines rest := by
  induction line with
  | nil => rfl
  | cons c line ih =>
      rw [List.mem_cons, not_or] at h
      rw [List.cons_append, wholeLines, if_neg (Ne.symm h.1), ih h.2]
      rfl

theorem wholeLines_flatMap {rows : List (List Char)} (h : forall row, row ∈ rows -> '\n' ∉ row) :
    wholeLines (rows.flatMap (· ++ ['\n'])) = rows.map (· ++ ['\n']) := by
  induction rows with
  | nil => rfl
  | cons row rows ih =>
      rw [List.forall_mem_cons] at h
      rw [List.flatMap_cons, List.append_assoc, List.singleton_append, wholeLines_line h.1, ih h.2,
        List.map_cons]

theorem withFinalBreak_cons (c : Char) {cs : List Char} (h : cs ≠ []) :
    withFinalBreak (c :: cs) = c :: withFinalBreak cs := by
  rcases List.exists_cons_of_ne_nil h with ⟨d, rest, rfl⟩
  unfold withFinalBreak
  by_cases hlast : (d :: rest).getLast? = some '\n'
  · simp [List.getLast?_cons_cons, hlast]
  · simp [List.getLast?_cons_cons, hlast]

/-- A line break at the end is one in the last line and changes no other. -/
theorem wholeLines_withFinalBreak (cs : List Char) :
    wholeLines (withFinalBreak cs) = (wholeLines cs).map withFinalBreak := by
  induction cs with
  | nil => rfl
  | cons c rest ih =>
      -- Only the last character can make the two differ; before it the lines are built up alike.
      by_cases hrest : rest = []
      · subst hrest
        by_cases hbreak : c = '\n'
        · simp [withFinalBreak, wholeLines, hbreak]
        · simp [withFinalBreak, wholeLines, hbreak]
      · rw [withFinalBreak_cons c hrest, wholeLines, wholeLines, ih]
        by_cases hbreak : c = '\n'
        · rw [if_pos hbreak, if_pos hbreak, List.map_cons, hbreak]
          rfl
        · rw [if_neg hbreak, if_neg hbreak]
          cases hlines : wholeLines rest with
          | nil => exact absurd (wholeLines_eq_nil_iff.mp hlines) hrest
          | cons line more =>
              have hmem : line ∈ wholeLines rest := by
                rw [hlines]
                exact List.mem_cons_self
              rw [List.map_cons, List.map_cons,
                withFinalBreak_cons c (ne_nil_of_mem_wholeLines hmem)]

end Text

namespace Script

open Text

/-!
# Indentation

Blank lines are indented as the others are.
-/

theorem withFinalBreak_eq_dropFinalBreak {cs : List Char} (h : cs ≠ []) :
    withFinalBreak cs = dropFinalBreak cs ++ ['\n'] := by
  by_cases hlast : cs.getLast? = some '\n'
  · rcases List.getLast?_eq_some_iff.mp hlast with ⟨front, rfl⟩
    simp [withFinalBreak, dropFinalBreak]
  · rw [withFinalBreak, if_neg (not_or.mpr ⟨h, hlast⟩), dropFinalBreak, if_neg hlast]

/-- The lines of indented code are those of the code, each behind its indentation. -/
theorem wholeLines_indentChars (level : Nat) (cs : List Char) :
    wholeLines (indentChars level cs) =
      (wholeLines (withFinalBreak cs)).map (indentation level ++ ·) := by
  by_cases hcs : cs = []
  · subst hcs
    rfl
  · have hbreak : forall row, row ∈ pieces (· == '\n') (dropFinalBreak cs) -> '\n' ∉ row :=
      fun _ => break_not_mem_of_mem_pieces
    have hindented : indentChars level cs =
        ((pieces (· == '\n') (dropFinalBreak cs)).map (indentation level ++ ·)).flatMap
          (· ++ ['\n']) := by
      rw [indentChars, if_neg hcs, List.flatMap_map]
      rfl
    rw [withFinalBreak_eq_dropFinalBreak hcs, ← flatMap_pieces, wholeLines_flatMap hbreak,
      hindented, wholeLines_flatMap, List.map_map, List.map_map]
    · refine List.map_congr_left fun row _ => ?_
      exact List.append_assoc _ _ _
    · intro row hrow
      rcases List.mem_map.mp hrow with ⟨piece, hpiece, rfl⟩
      rw [List.mem_append, not_or]
      exact ⟨break_not_mem_indentation level, hbreak piece hpiece⟩

/-- A text without the indentation of its lines, if every line is indented. -/
def unindent? (level : Nat) (cs : List Char) : Option (List Char) :=
  ((wholeLines cs).mapM (dropStart? (indentation level))).map List.flatten

/--
Indented code has the lines of the code, each with the indentation before it and a line break
behind it if there was none.  Without the indentation it is the code again, with a line break at
its end just if the code has a last line without one.
-/
theorem indentCode_reversible (level : Nat) (code : String) :
    wholeLines (indentCode level code).toList =
        (wholeLines code.toList).map (fun line => indentation level ++ withFinalBreak line) ∧
      unindent? level (indentCode level code).toList = some (withFinalBreak code.toList) := by
  have hlines := wholeLines_indentChars level code.toList
  rw [indentCode, String.toList_ofList]
  constructor
  · rw [hlines, wholeLines_withFinalBreak, List.map_map]
    rfl
  · have hunindented : dropStart? (indentation level) ∘ (indentation level ++ ·) = pure := by
      funext line
      exact dropStart?_append _ line
    rw [unindent?, hlines, List.mapM_map, hunindented, List.mapM_pure, List.map_id_fun']
    exact congrArg some (flatten_wholeLines _)

example : indentCode 1 "a\n\n b" = "    a\n    \n     b\n" := by decide

end Script
end TutorialKit
