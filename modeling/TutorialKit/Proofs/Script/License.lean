import Mathlib.Data.List.DropRight
import TutorialKit.Proofs.Script.Reporting
import TutorialKit.Script.Exporter

/-!
# The license in its frame

The license stands in a comment that frames its lines.  The frame is straight for every text, and
its lines can be read back.  The comment ends where it first says so, which is at the lower border
unless the license has the end of a comment in it.
-/

namespace TutorialKit
namespace Script

open Text

/-!
# Comments

A comment is read as whoever runs the script reads it: up to the first end.
-/

/-- What is left of an open comment, and the text behind it. -/
def closeComment : List Char -> Option (List Char × List Char)
  | '*' :: '/' :: rest => some ([], rest)
  | c :: rest => (closeComment rest).map fun closed => (c :: closed.1, closed.2)
  | [] => none

def blockComment? : List Char -> Option (List Char × List Char)
  | '/' :: '*' :: rest => closeComment rest
  | _ => none

/-- The text has the end of a comment in it. -/
def EndsComment (cs : List Char) : Prop :=
  ['*', '/'] <:+: cs

instance (cs : List Char) : Decidable (EndsComment cs) :=
  inferInstanceAs (Decidable (['*', '/'] <:+: cs))

theorem endsComment_append {cs ds : List Char} :
    EndsComment (cs ++ ds) ↔
      EndsComment cs ∨ EndsComment ds ∨ cs.getLast? = some '*' ∧ ds.head? = some '/' := by
  rw [EndsComment, List.infix_append_iff_ne_nil]
  refine or_congr Iff.rfl (or_congr Iff.rfl ⟨?_, ?_⟩)
  · rintro ⟨front, back, hfront, hback, heq, ⟨before, rfl⟩, ⟨after, rfl⟩⟩
    cases front with
    | nil => exact absurd rfl hfront
    | cons c front =>
        cases front with
        | nil =>
            cases heq
            simp
        | cons d front =>
            rw [List.cons_append, List.cons_append, List.cons.injEq, List.cons.injEq] at heq
            exact absurd (List.append_eq_nil_iff.mp heq.2.2.symm).2 hback
  · rintro ⟨hlast, hhead⟩
    rcases List.getLast?_eq_some_iff.mp hlast with ⟨before, rfl⟩
    cases ds with
    | nil => cases hhead
    | cons d after =>
        cases hhead
        exact ⟨['*'], ['/'], nofun, nofun, rfl, List.suffix_append _ _, ⟨after, rfl⟩⟩

theorem not_endsComment_of_no_slash {cs : List Char} (h : '/' ∉ cs) : ¬ EndsComment cs :=
  fun hends => h (hends.subset (by decide))

theorem endsComment_cons {c : Char} {cs : List Char} :
    EndsComment (c :: cs) ↔ EndsComment cs ∨ c = '*' ∧ cs.head? = some '/' := by
  have hsingle : ¬ EndsComment [c] := fun hends => by simpa using hends.length_le
  rw [← List.singleton_append, endsComment_append]
  simp [hsingle]

theorem closeComment_cons {c : Char} {cs : List Char} (h : ¬ (c = '*' ∧ cs.head? = some '/')) :
    closeComment (c :: cs) =
      (closeComment cs).map fun closed => (c :: closed.1, closed.2) := by
  rw [closeComment]
  rintro rest rfl rfl
  exact h ⟨rfl, rfl⟩

theorem head?_content (content rest : List Char) :
    (content ++ '*' :: rest).head? = (content ++ ['*']).head? := by
  rw [List.head?_append, List.head?_append]
  rfl

/-- A comment ends where it first says so. -/
theorem closeComment_append {content : List Char} (h : ¬ EndsComment (content ++ ['*']))
    (rest : List Char) : closeComment (content ++ '*' :: '/' :: rest) = some (content, rest) := by
  induction content with
  | nil => rfl
  | cons c content ih =>
      rw [List.cons_append, endsComment_cons, not_or] at h
      rw [List.cons_append, closeComment_cons (by rw [head?_content]; exact h.2), ih h.1]
      rfl

theorem closeComment_eq_some {cs content rest : List Char}
    (h : closeComment cs = some (content, rest)) :
    cs = content ++ '*' :: '/' :: rest ∧ ¬ EndsComment (content ++ ['*']) := by
  induction cs generalizing content with
  | nil => cases h
  | cons c cs ih =>
      by_cases hends : c = '*' ∧ cs.head? = some '/'
      · rcases hends with ⟨rfl, hhead⟩
        rcases List.head?_eq_some_iff.mp hhead with ⟨cs, rfl⟩
        cases h
        exact ⟨rfl, by decide⟩
      · rw [closeComment_cons hends] at h
        rcases Option.map_eq_some_iff.mp h with ⟨⟨inner, rest⟩, hclosed, heq⟩
        cases heq
        rcases ih hclosed with ⟨rfl, hnone⟩
        refine ⟨rfl, ?_⟩
        rw [head?_content] at hends
        rw [List.cons_append, endsComment_cons, not_or]
        exact ⟨hnone, hends⟩

theorem head?_pieces_iff {cut : Char -> Bool} {cs piece : List Char} {more : List (List Char)}
    (h : pieces cut cs = piece :: more) {c : Char} (hc : cut c = false) :
    cs.head? = some c ↔ piece.head? = some c := by
  have hpiece : (pieces cut cs).head? = _ := head?_pieces cs
  rw [h, List.head?_cons, Option.some.injEq] at hpiece
  rw [hpiece, List.head?_takeWhile, Option.filter_eq_some_iff, hc]
  simp

theorem endsComment_iff_pieces (cs : List Char) :
    EndsComment cs ↔ exists line, line ∈ pieces (· == '\n') cs ∧ EndsComment line := by
  induction cs with
  | nil => simp [pieces]
  | cons c cs ih =>
      rw [endsComment_cons, ih, pieces]
      by_cases hbreak : c = '\n'
      · have hnone : ¬ EndsComment [] := by decide
        simp [hbreak, hnone]
      · cases hcs : pieces (· == '\n') cs with
        | nil => exact absurd hcs (pieces_ne_nil _ cs)
        | cons piece more =>
            have hslash : ('/' == '\n') = false := by decide
            simp only [beq_iff_eq, hbreak, if_false, List.exists_mem_cons_iff, endsComment_cons,
              head?_pieces_iff hcs hslash]
            exact or_right_comm

/-!
# Lines of the frame

A line is padded to the width of the frame, so its text is read back without spaces at its end.
-/

def boxRow (width : Nat) (line : List Char) : List Char :=
  " *   ".toList ++ line ++ List.replicate (width - line.length) ' ' ++ "   *".toList

def unframe (row : List Char) : List Char :=
  (row.drop " *   ".toList.length).rdrop "   *".toList.length

def dropSpaces (line : List Char) : List Char :=
  line.rdropWhile (· == ' ')

-- Stated for `rw`: the equation that Lean makes of the definition takes seconds to check.
theorem boxRow_eq (width : Nat) (line : List Char) :
    boxRow width line =
      " *   ".toList ++ line ++ List.replicate (width - line.length) ' ' ++ "   *".toList := rfl

theorem boxLine_eq (width : Nat) (line : List Char) :
    Block.boxLine width line = boxRow width line ++ ['\n'] := by
  have hside : "   *\n".toList = "   *".toList ++ ['\n'] := by decide
  have hline : Block.boxLine width line =
      " *   ".toList ++ line ++ List.replicate (width - line.length) ' ' ++ "   *\n".toList := rfl
  rw [hline, boxRow_eq, hside, List.append_assoc _ "   *".toList]

theorem unframe_boxRow (width : Nat) (line : List Char) :
    unframe (boxRow width line) = line ++ List.replicate (width - line.length) ' ' := by
  rw [unframe, boxRow_eq, List.append_assoc, List.append_assoc, List.drop_left,
    <- List.append_assoc line, List.rdrop, List.length_append, Nat.add_sub_cancel, List.take_left]

theorem dropSpaces_append (line : List Char) (n : Nat) :
    dropSpaces (line ++ List.replicate n ' ') = dropSpaces line := by
  induction n with
  | zero => rw [List.replicate_zero, List.append_nil]
  | succ n ih =>
      rw [List.replicate_succ', ← List.append_assoc, dropSpaces,
        List.rdropWhile_concat_pos _ _ _ rfl]
      exact ih

theorem length_le_boxWidth {lines : List (List Char)} {line : List Char} (h : line ∈ lines) :
    line.length <= Block.boxWidth lines := by
  induction lines with
  | nil => cases h
  | cons first rest ih =>
      rw [Block.boxWidth, List.map_cons, List.foldr_cons]
      rcases List.mem_cons.mp h with rfl | h
      · exact Nat.le_max_left _ _
      · exact (ih h).trans (Nat.le_max_right _ _)

theorem length_boxRow {width : Nat} {line : List Char} (h : line.length <= width) :
    (boxRow width line).length = width + 9 := by
  simp [boxRow_eq]
  omega

theorem endsComment_boxRow (width : Nat) (line : List Char) :
    EndsComment (boxRow width line) ↔ EndsComment line := by
  have hleft : ¬ EndsComment " *   ".toList := by decide
  have hright : ¬ EndsComment "   *".toList := by decide
  have hspaces : ¬ EndsComment (List.replicate (width - line.length) ' ') :=
    not_endsComment_of_no_slash fun hmem => by simpa using List.eq_of_mem_replicate hmem
  have hhead : (List.replicate (width - line.length) ' ').head? ≠ some '/' := by
    cases width - line.length with
    | zero => nofun
    | succ n => simp [List.replicate_succ]
  rw [boxRow_eq, endsComment_append, endsComment_append, endsComment_append]
  simp only [hleft, hright, hspaces, hhead, false_or, or_false, and_false]
  simp

/-!
# The frame

No line of the frame ends the comment unless its text does, since there is a space between its text
and the star on either side.
-/

def boxRows (cs : List Char) : List (List Char) :=
  let lines := pieces (· == '\n') cs
  lines.map (boxRow (Block.boxWidth lines))

def boxBorder (cs : List Char) : List Char :=
  List.replicate (Block.boxWidth (pieces (· == '\n') cs)) '*'

def boxContent (cs : List Char) : List Char :=
  "***".toList ++ boxBorder cs ++ "****".toList ++
    '\n' :: ((boxRows cs).flatMap (· ++ ['\n']) ++
      (" ****".toList ++ boxBorder cs ++ "***".toList))

theorem flatMap_boxLine (lines : List (List Char)) (width : Nat) :
    lines.flatMap (Block.boxLine width) = (lines.map (boxRow width)).flatMap (· ++ ['\n']) := by
  rw [List.flatMap_map]
  exact congrArg lines.flatMap (funext (boxLine_eq width))

theorem box_eq (cs : List Char) :
    Block.box cs = '/' :: '*' :: (boxContent cs ++ '*' :: '/' :: "\n\n".toList) := by
  have hbox : Block.box cs = "/****".toList ++ boxBorder cs ++ "****\n".toList ++
      (boxRows cs).flatMap (· ++ ['\n']) ++ " ****".toList ++ boxBorder cs ++
        "****/\n\n".toList := by
    rw [boxRows, ← flatMap_boxLine]
    rfl
  have hopen : "/****".toList = '/' :: '*' :: "***".toList := by decide
  have htop : "****\n".toList = "****".toList ++ ['\n'] := by decide
  have hclose : "****/\n\n".toList = "***".toList ++ '*' :: '/' :: "\n\n".toList := by decide
  rw [hbox, boxContent]
  simp only [hopen, htop, hclose, List.append_assoc, List.cons_append, List.nil_append]

theorem endsComment_break (cs ds : List Char) :
    EndsComment (cs ++ '\n' :: ds) ↔ EndsComment cs ∨ EndsComment ds := by
  rw [endsComment_append, endsComment_cons]
  simp

theorem endsComment_flatMap (rows : List (List Char)) (rest : List Char) :
    EndsComment (rows.flatMap (· ++ ['\n']) ++ rest) ↔
      (exists row, row ∈ rows ∧ EndsComment row) ∨ EndsComment rest := by
  induction rows with
  | nil => simp
  | cons row rows ih =>
      rw [List.flatMap_cons, List.append_assoc, List.append_assoc, List.singleton_append,
        endsComment_break, ih, List.exists_mem_cons_iff, or_assoc]

theorem endsComment_boxRows (cs : List Char) :
    (exists row, row ∈ boxRows cs ∧ EndsComment row) ↔ EndsComment cs := by
  rw [endsComment_iff_pieces cs, boxRows]
  simp [endsComment_boxRow]

theorem endsComment_boxContent (cs : List Char) :
    EndsComment (boxContent cs ++ ['*']) ↔ EndsComment cs := by
  have hborder : '/' ∉ boxBorder cs := fun hmem => by
    simpa using List.eq_of_mem_replicate hmem
  have htop : ¬ EndsComment ("***".toList ++ boxBorder cs ++ "****".toList) :=
    not_endsComment_of_no_slash (by simp [hborder])
  have hbottom : ¬ EndsComment (" ****".toList ++ boxBorder cs ++ "***".toList ++ ['*']) :=
    not_endsComment_of_no_slash (by simp [hborder])
  have hcontent : boxContent cs ++ ['*'] =
      ("***".toList ++ boxBorder cs ++ "****".toList) ++
        '\n' :: ((boxRows cs).flatMap (· ++ ['\n']) ++
          (" ****".toList ++ boxBorder cs ++ "***".toList ++ ['*'])) := by
    simp only [boxContent, List.append_assoc, List.cons_append]
  rw [hcontent, endsComment_break, endsComment_flatMap, endsComment_boxRows, or_iff_right htop,
    or_iff_left hbottom]

theorem break_not_mem_boxRow {cs row : List Char} (h : row ∈ boxRows cs) : '\n' ∉ row := by
  rcases List.mem_map.mp h with ⟨line, hline, rfl⟩
  have hbreak : '\n' ∉ line := break_not_mem_of_mem_pieces hline
  simp [boxRow_eq, hbreak]

theorem pieces_box (cs : List Char) :
    pieces (· == '\n') (Block.box cs) =
      ("/****".toList ++ boxBorder cs ++ "****".toList) ::
        (boxRows cs ++ [" ****".toList ++ boxBorder cs ++ "****/".toList, [], []]) := by
  have hborder : '\n' ∉ boxBorder cs := fun hmem => by
    simpa using List.eq_of_mem_replicate hmem
  have hbox : Block.box cs = ("/****".toList ++ boxBorder cs ++ "****".toList) ++
      '\n' :: ((boxRows cs).flatMap (· ++ ['\n']) ++
        ((" ****".toList ++ boxBorder cs ++ "****/".toList) ++ '\n' :: ['\n'])) := by
    rw [box_eq, boxContent]
    have hopen : "/****".toList = '/' :: '*' :: "***".toList := by decide
    have hclose : "****/".toList = "***".toList ++ ['*', '/'] := by decide
    have hend : "\n\n".toList = ['\n', '\n'] := by decide
    simp only [hopen, hclose, hend, List.append_assoc, List.cons_append, List.nil_append]
  rw [hbox, pieces_line (by simp [hborder]), pieces_flatMap fun _ => break_not_mem_boxRow,
    pieces_line (by simp [hborder])]
  rfl

/-- Whether the comment in which the license stands is closed by the frame. -/
theorem blockComment?_box_iff (cs : List Char) :
    (exists content, blockComment? (Block.box cs) = some (content, "\n\n".toList)) ↔
      ¬ EndsComment cs := by
  rw [box_eq, blockComment?, ← endsComment_boxContent]
  constructor
  · rintro ⟨content, hclosed⟩
    rcases closeComment_eq_some hclosed with ⟨hcontent, hnone⟩
    rwa [List.append_cancel_right hcontent]
  · intro hnone
    exact ⟨boxContent cs, closeComment_append hnone _⟩

/-- The frame is straight and shows the lines of the license. -/
structure Framed (cs written : List Char) (rows : List (List Char)) : Prop where
  lines : exists top bottom,
    pieces (· == '\n') written = top :: (rows ++ [bottom, [], []]) ∧
      top.length = Block.boxWidth (pieces (· == '\n') cs) + 9
  straight : forall row, row ∈ rows ->
    row.length = Block.boxWidth (pieces (· == '\n') cs) + 9
  shown : rows.map (dropSpaces ∘ unframe) = (pieces (· == '\n') cs).map dropSpaces

theorem framed_box (cs : List Char) : Framed cs (Block.box cs) (boxRows cs) where
  lines := by
    refine ⟨_, _, pieces_box cs, ?_⟩
    simp [boxBorder]
  straight := by
    intro row hrow
    rcases List.mem_map.mp hrow with ⟨line, hline, rfl⟩
    exact length_boxRow (length_le_boxWidth hline)
  shown := by
    rw [boxRows, List.map_map]
    refine List.map_congr_left fun line _ => ?_
    rw [Function.comp_apply, Function.comp_apply, unframe_boxRow, dropSpaces_append]

/-- The license is written as a straight frame around its lines, and the frame is one comment just
if the license does not end a comment itself. -/
theorem license_framed {license : String} (hlicense : license ≠ "") (exporter : Exporter) :
    exists written rows, (exporter.writeLicense license).output = exporter.output ++ written ∧
      Framed license.toList written.toList rows ∧
      ((exists content, blockComment? written.toList = some (content, "\n\n".toList)) ↔
        ¬ EndsComment license.toList) := by
  refine ⟨String.ofList (Block.box license.toList), boxRows license.toList, ?_, ?_, ?_⟩
  · rw [Exporter.writeLicense, if_neg hlicense]
    rfl
  · rw [String.toList_ofList]
    exact framed_box _
  · rw [String.toList_ofList]
    exact blockComment?_box_iff _

theorem license_framed_two_lines :
    "a\nbc" ≠ "" ∧
      exists written rows, (({} : Exporter).writeLicense "a\nbc").output = "" ++ written ∧
        Framed "a\nbc".toList written.toList rows ∧
        ((exists content, blockComment? written.toList = some (content, "\n\n".toList)) ↔
          ¬ EndsComment "a\nbc".toList) :=
  ⟨by decide, license_framed (by decide) {}⟩

/-- What a license has behind the end of a comment stands in the script as code. -/
theorem license_leaks :
    ¬ exists content,
      blockComment? (({} : Exporter).writeLicense "a */ b").output.toList =
        some (content, "\n\n".toList) := by
  have hcomment : blockComment? (({} : Exporter).writeLicense "a */ b").output.toList =
      some ("*************\n *   a ".toList, " b   *\n **************/\n\n".toList) := by
    decide
  rintro ⟨content, hclosed⟩
  rw [hcomment, Option.some.injEq, Prod.mk.injEq] at hclosed
  exact absurd hclosed.2 (by decide)

end Script
end TutorialKit
