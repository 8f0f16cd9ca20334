import TutorialKit.Proofs.Text.Pieces
import TutorialKit.Script.Export
import TutorialKit.Script.Report

/-!
# What the lines of a script report

A script is searched line by line for problems, whatever its lines were written for.  What one
text reports and what is reported after it do not depend on each other, as long as both end with a
line break.
-/

namespace TutorialKit

namespace Text

/-!
# Lines

A script falls into lines at line feeds, and the white space around a line does not count.
-/

theorem closeLines_append (lines : List (List Char)) {more : List (List Char)}
    (hmore : more ≠ []) :
    closeLines (lines ++ more) = lines.map dropReturn ++ closeLines more := by
  induction lines with
  | nil => rfl
  | cons first rest ih =>
      rw [List.cons_append, List.map_cons, List.cons_append, ← ih]
      cases hrest : rest ++ more with
      | nil => exact absurd (List.append_eq_nil_iff.mp hrest).2 hmore
      | cons next others => rfl

theorem linesOf_append (cs rest : List Char) :
    linesOf (cs ++ '\n' :: rest) = (pieces (· == '\n') cs).map dropReturn ++ linesOf rest := by
  rw [linesOf, pieces_append_cut (by decide), closeLines_append _ (pieces_ne_nil _ rest)]
  rfl

theorem isPrefix_of_dropReturn {start line : List Char}
    (h : start <+: trimStart (dropReturn line)) : start <+: trimStart line := by
  unfold dropReturn at h
  split at h
  · rename_i hlast
    rcases List.getLast?_eq_some_iff.mp hlast with ⟨front, rfl⟩
    rw [List.dropLast_concat] at h
    rw [trimStart, List.dropWhile_append]
    split
    · rename_i hblank
      rw [trimStart, List.isEmpty_iff.mp hblank, List.prefix_nil] at h
      rw [h]
      exact List.nil_prefix
    · exact h.trans (List.prefix_append _ _)
  · exact h

end Text

namespace Script

open Text

/-!
# Reports

Reports of a text and reports of what follows it are put together by `Reports.append`.
-/

theorem reportedIn_eq_none_iff {line : List Char} :
    reportedIn line = none ↔ ¬ Problem.marker.toList <+: trimStart line := by
  simp [reportedIn, dropStart?]

/-- What is reported in the lines of a text. -/
def reportedLines (cs : List Char) : List (List Char) :=
  (linesOf cs).filterMap reportedIn

/-- Written before other lines, the text adds reports of these problems to theirs. -/
def Reports (cs : List Char) (problems : List Problem) : Prop :=
  forall rest, reportedLines (cs ++ rest) =
    problems.map (fun problem => problem.message.toList) ++ reportedLines rest

namespace Reports

variable {first second : List Char} {problems others : List Problem}

theorem nil : Reports [] [] :=
  fun _ => rfl

theorem append (hfirst : Reports first problems) (hsecond : Reports second others) :
    Reports (first ++ second) (problems ++ others) := by
  intro rest
  rw [List.append_assoc, hfirst, hsecond, List.map_append, List.append_assoc]

theorem flatMap {α : Type} {l : List α} {text : α -> List Char} {problems : α -> List Problem}
    (h : forall a, a ∈ l -> Reports (text a) (problems a)) :
    Reports (l.flatMap text) (l.flatMap problems) := by
  induction l with
  | nil => exact nil
  | cons a rest ih =>
      rw [List.forall_mem_cons] at h
      exact h.1.append (ih h.2)

end Reports

theorem reported_of_reports {script : String} {problems : List Problem}
    (h : Reports script.toList problems) : reported script = problems.map Problem.message := by
  have hlines : reportedLines script.toList =
      problems.map fun problem => problem.message.toList := by
    have hrest := h []
    rw [List.append_nil] at hrest
    rw [hrest]
    exact List.append_nil _
  rw [reported, show (linesOf script.toList).filterMap reportedIn = _ from hlines, List.map_map]
  exact List.map_congr_left fun problem _ => String.ofList_toList

/-!
# Quiet texts

A quiet text may be repeated anywhere in a script, at the beginning of its lines too.
-/

/-- No line of the text looks like the report of a problem. -/
def Quiet (cs : List Char) : Prop :=
  forall line, line ∈ pieces (· == '\n') cs -> ¬ Problem.marker.toList <+: trimStart line

instance (cs : List Char) : Decidable (Quiet cs) :=
  List.decidableBAll (fun line => ¬ Problem.marker.toList <+: trimStart line)
    (pieces (· == '\n') cs)

theorem Quiet.reports {cs : List Char} (h : Quiet cs) : Reports (cs ++ ['\n']) [] := by
  intro rest
  rw [List.append_assoc, List.singleton_append, reportedLines, linesOf_append,
    List.filterMap_append, List.map_nil]
  congr 1
  rw [List.filterMap_eq_nil_iff]
  intro line hline
  rcases List.mem_map.mp hline with ⟨piece, hpiece, rfl⟩
  rw [reportedIn_eq_none_iff]
  exact fun hreport => h piece hpiece (isPrefix_of_dropReturn hreport)

theorem quiet_nil : Quiet [] := by
  intro line hline
  rw [List.mem_singleton.mp hline]
  decide

theorem reports_break : Reports "\n".toList [] := by
  have hbreak : "\n".toList = [] ++ ['\n'] := by decide
  rw [hbreak]
  exact quiet_nil.reports

theorem quiet_of_no_break {cs : List Char} (hbreak : '\n' ∉ cs)
    (h : ¬ Problem.marker.toList <+: trimStart cs) : Quiet cs := by
  intro line hline
  rw [pieces_of_uncut (uncut_of_no_break hbreak), List.mem_singleton] at hline
  rwa [hline]

theorem Quiet.of_mem_pieces {cs piece : List Char} (h : Quiet cs)
    (hpiece : piece ∈ pieces (· == '\n') cs) : Quiet piece :=
  quiet_of_no_break (break_not_mem_of_mem_pieces hpiece) (h piece hpiece)

/-!
# Indentation

Indented code reports the same, since white space before a line is not looked at.
-/

theorem break_not_mem_indentation (level : Nat) : '\n' ∉ indentation level := by
  intro h
  have hblank : '\n' = ' ' := List.eq_of_mem_replicate h
  revert hblank
  decide

theorem trimStart_indentation (level : Nat) (cs : List Char) :
    trimStart (indentation level ++ cs) = trimStart cs := by
  have hblank : isBlank ' ' = true := by decide
  rw [trimStart, indentation, List.dropWhile_append_of_pos]
  · rfl
  · intro c hc
    rw [List.eq_of_mem_replicate hc]
    exact hblank

theorem Quiet.indentation {cs : List Char} (h : Quiet cs) (level : Nat) :
    Quiet (indentation level ++ cs) := by
  have huncut := uncut_of_no_break (break_not_mem_indentation level)
  rcases pieces_append_left huncut cs with ⟨piece, more, hcs, hboth⟩
  intro line hline
  rw [hboth] at hline
  rcases List.mem_cons.mp hline with rfl | hline
  · rw [trimStart_indentation]
    exact h piece (by rw [hcs]; exact List.mem_cons_self)
  · exact h line (by rw [hcs]; exact List.mem_cons_of_mem piece hline)

theorem reports_line {text : String} (h : Quiet text.toList) (level : Nat) :
    Reports (line level text).toList [] := by
  have hline := (h.indentation level).reports
  simpa [line] using hline

theorem mem_pieces_dropFinalBreak {cs piece : List Char}
    (h : piece ∈ pieces (· == '\n') (dropFinalBreak cs)) : piece ∈ pieces (· == '\n') cs := by
  unfold dropFinalBreak at h
  split at h
  · rename_i hlast
    rcases List.getLast?_eq_some_iff.mp hlast with ⟨front, rfl⟩
    rw [List.dropLast_concat] at h
    rw [pieces_append_cut (by decide)]
    exact List.mem_append_left _ h
  · exact h

theorem reports_indentCode {code : String} (h : Quiet code.toList) (level : Nat) :
    Reports (indentCode level code).toList [] := by
  rw [indentCode, String.toList_ofList, indentChars]
  split
  · exact .nil
  · have hlines : forall piece, piece ∈ pieces (· == '\n') (dropFinalBreak code.toList) ->
        Reports (indentLine level piece) [] := by
      intro piece hpiece
      exact ((h.of_mem_pieces (mem_pieces_dropFinalBreak hpiece)).indentation level).reports
    have hall := Reports.flatMap hlines
    rwa [List.flatMap_eq_nil_iff.mpr (fun _ _ => rfl)] at hall

theorem dropStart?_append (start cs : List Char) : dropStart? start (start ++ cs) = some cs := by
  simp [dropStart?]

theorem reportedIn_marker (level : Nat) (message : List Char) :
    reportedIn (indentation level ++ (Problem.marker.toList ++ message)) = some message := by
  have hstart : trimStart (Problem.marker.toList ++ message) =
      Problem.marker.toList ++ message := rfl
  rw [reportedIn, trimStart_indentation, hstart, dropStart?_append]

/-- A problem is reported however far its line is indented. -/
theorem reports_problem (level : Nat) (problem : Problem) :
    Reports (line level (Problem.marker ++ problem.message)).toList [problem] := by
  have hbreak : '\n' ∉ problem.message.toList := by
    cases problem <;> decide
  have hend : problem.message.toList.getLast? = some '!' := by
    cases problem <;> decide
  let text := indentation level ++ (Problem.marker.toList ++ problem.message.toList)
  have hpieces : pieces (· == '\n') text = [text] := by
    apply pieces_of_uncut
    apply uncut_of_no_break
    rw [List.mem_append, List.mem_append, not_or, not_or]
    exact ⟨break_not_mem_indentation level, by decide, hbreak⟩
  have hreturn : dropReturn text = text := by
    rw [dropReturn, List.getLast?_append, List.getLast?_append, hend, Option.some_or,
      Option.some_or]
    exact if_neg (by decide)
  intro rest
  have htext : (line level (Problem.marker ++ problem.message)).toList ++ rest =
      text ++ '\n' :: rest := by
    simp [line, text]
  rw [htext, reportedLines, linesOf_append, hpieces, List.map_singleton, hreturn,
    List.singleton_append, List.filterMap_cons_some (reportedIn_marker level _)]
  rfl

/-!
# Openings

A line that begins with some other code is not looked at further.
-/

/-- No line that begins with the text reports anything. -/
def Guards (text : String) : Prop :=
  forall rest, ¬ Problem.marker.toList <+: trimStart (text.toList ++ rest)

theorem Guards.append {text : String} (h : Guards text) (more : String) :
    Guards (text ++ more) := by
  intro rest
  rw [String.toList_append, List.append_assoc]
  exact h (more.toList ++ rest)

/-- A text of which neither is the beginning of the other begins no report. -/
theorem guards_of_trimStart {text : String}
    (h : ¬ Problem.marker.toList <+: trimStart text.toList ∧
      ¬ trimStart text.toList <+: Problem.marker.toList) : Guards text := by
  intro rest hreport
  rw [trimStart, List.dropWhile_append] at hreport
  split at hreport
  · rename_i hblank
    apply h.2
    rw [trimStart, List.isEmpty_iff.mp hblank]
    exact List.nil_prefix
  · rcases List.prefix_or_prefix_of_prefix hreport (List.prefix_append _ _) with hreport | hstart
    · exact h.1 hreport
    · exact h.2 hstart

def IsPlain (c : Char) : Prop :=
  c ≠ '/' ∧ c ≠ '\n'

instance (c : Char) : Decidable (IsPlain c) :=
  inferInstanceAs (Decidable (_ ∧ _))

/-- A text of such characters may stand at the beginning of a line. -/
def Plain (text : String) : Prop :=
  forall c, c ∈ text.toList -> IsPlain c

instance (text : String) : Decidable (Plain text) :=
  List.decidableBAll IsPlain text.toList

theorem Guards.of_plain {name text : String} (hname : Plain name) (h : Guards text) :
    Guards (name ++ text) := by
  intro rest
  rw [String.toList_append, List.append_assoc]
  unfold Plain at hname
  generalize name.toList = front at hname
  induction front with
  | nil => exact h rest
  | cons c cs ih =>
      rw [List.forall_mem_cons] at hname
      rw [List.cons_append, trimStart, List.dropWhile_cons]
      by_cases hblank : isBlank c = true
      · rw [if_pos hblank]
        exact ih hname.2
      · rw [if_neg hblank]
        intro hreport
        exact hname.1.1 (List.cons_prefix_cons.mp hreport).1.symm

def Single (text : String) : Prop :=
  '\n' ∉ text.toList

instance (text : String) : Decidable (Single text) :=
  inferInstanceAs (Decidable ('\n' ∉ text.toList))

theorem Plain.single {text : String} (h : Plain text) : Single text :=
  fun hbreak => (h '\n' hbreak).2 rfl

@[simp] theorem single_append {first second : String} :
    Single (first ++ second) ↔ Single first ∧ Single second := by
  simp [Single]

@[simp] theorem single_quoted (text : String) : Single (quoted text) := by
  have hescaped : '\n' ∉ escapeChars text.toList := by
    rw [escapeChars, List.mem_flatMap]
    rintro ⟨c, -, hc⟩
    unfold escapeChar at hc
    by_cases hbreak : c = '\n'
    · rw [if_pos hbreak] at hc
      revert hc
      decide
    · rw [if_neg hbreak] at hc
      split at hc
      · revert hc
        decide
      · split at hc
        · revert hc
          decide
        · exact hbreak (List.mem_singleton.mp hc).symm
  unfold quoted
  rw [single_append, single_append]
  refine ⟨⟨by decide, ?_⟩, by decide⟩
  rw [Single, String.toList_ofList]
  exact hescaped

theorem Guards.quiet {text : String} (h : Guards text) (hsingle : Single text) :
    Quiet text.toList := by
  refine quiet_of_no_break hsingle ?_
  have hline := h []
  rwa [List.append_nil] at hline

theorem Guards.reports {text : String} (h : Guards text) (hsingle : Single text) (level : Nat) :
    Reports (line level text).toList [] :=
  reports_line (h.quiet hsingle) level

theorem Guards.quiet_append {text : String} {cs : List Char} (h : Guards text)
    (hsingle : Single text) (hcs : Quiet cs) : Quiet (text.toList ++ cs) := by
  rcases pieces_append_left (uncut_of_no_break hsingle) cs with ⟨piece, more, hpieces, hboth⟩
  intro line hline
  rw [hboth] at hline
  rcases List.mem_cons.mp hline with rfl | hline
  · exact h piece
  · exact hcs line (by rw [hpieces]; exact List.mem_cons_of_mem piece hline)

/-- A report does not end with a bracket, so none comes about when a line is closed. -/
theorem Quiet.close {cs : List Char} (h : Quiet cs) : Quiet (cs ++ ");".toList) := by
  have hsingle : '\n' ∉ ");".toList := by decide
  rcases pieces_append_right (uncut_of_no_break hsingle) cs with ⟨more, piece, hpieces, hboth⟩
  intro line hline
  rw [hboth] at hline
  rcases List.mem_append.mp hline with hline | hline
  · exact h line (by rw [hpieces]; exact List.mem_append_left _ hline)
  rw [List.mem_singleton.mp hline, trimStart, List.dropWhile_append]
  have hpiece := h piece (by rw [hpieces]; exact List.mem_append_right _ List.mem_cons_self)
  split
  · decide
  · rintro ⟨rest, hreport⟩
    rcases List.append_eq_append_iff.mp hreport with ⟨others, htrimmed, -⟩ |
      ⟨others, hmarker, hclose⟩
    · exact hpiece ⟨others, htrimmed.symm⟩
    · cases hothers : others.getLast? with
      | none =>
          rw [List.getLast?_eq_none_iff.mp hothers, List.append_nil] at hmarker
          exact hpiece ⟨[], by rw [List.append_nil, hmarker]; rfl⟩
      | some last =>
          have hlast : Problem.marker.toList.getLast? = some last := by
            rw [hmarker, List.getLast?_append, hothers, Option.some_or]
          have hclosing : last ∈ ");".toList := by
            rw [hclose]
            exact List.mem_append_left _ (List.mem_of_getLast? hothers)
          have hblank : last = ' ' := by
            rw [show Problem.marker.toList.getLast? = some ' ' from by decide] at hlast
            exact (Option.some.inj hlast).symm
          rw [hblank] at hclosing
          revert hclosing
          decide

end Script
end TutorialKit
