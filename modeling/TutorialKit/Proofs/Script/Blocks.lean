import Mathlib.Data.List.Basic
import TutorialKit.Proofs.Script.Reporting

/-!
# Blocks and the problems in them

Statements and blocks begin with code of their own, which no report begins with.  A block reports
the problems that stand in it and no others, if the texts that it repeats as they are do not look
like reports themselves.
-/

namespace TutorialKit

namespace Script

open Text

/-!
# Statements

A statement reports nothing unless it stands in place of a problem: what it begins with is code.
-/

namespace Target

def Clear : Target -> Prop
  | step _ => True
  | handler function => Single function

theorem Clear.single {target : Target} (h : target.Clear) : Single target.arguments := by
  cases target with
  | step id => exact single_quoted id
  | handler function =>
      simp only [arguments, single_append]
      exact ⟨⟨by decide, h⟩, by decide⟩

end Target

namespace Statement

def problem? : Statement -> Option Problem
  | problem p => some p
  | _ => none

/-- Names are as they should be, and texts that are repeated do not look like reports. -/
def Clear : Statement -> Prop
  | blank => True
  | problem _ => True
  | newOption object _ => Plain object
  | newCondition object _ => Plain object
  | setEvent object _ _ => Plain object
  | setProperty object _ _ value => Plain object ∧ Quiet value.toList
  | setSignal object _ _ => Plain object
  | setWindow object _ => Plain object
  | setStep object => Plain object
  | addChild object child => Plain object ∧ Plain child
  | setNegated object child => Plain object ∧ Plain child
  | addOption object target => Plain object ∧ target.Clear
  | addCondition object target => Plain object ∧ target.Clear

theorem single_findObject (name : String) : Single (findObject name) := by
  unfold findObject
  rw [single_append, single_append]
  refine ⟨⟨?_, single_quoted name⟩, ?_⟩
  · simp [Single]
  · simp [Single]

theorem single_className (kind : ObjectKind) : Single kind.className := by
  unfold ObjectKind.className
  cases kind with
  | composed composition =>
      rw [single_append]
      cases composition with
      | all | any => exact ⟨by decide, by decide⟩
  | event | property | signal | window | stepActivation | negation => decide

/-- A statement that is none of the others reports nothing. -/
theorem quiet_code {statement : Statement} (h : statement.Clear)
    (hnone : statement.problem? = none) : Quiet statement.code.toList := by
  cases statement with
  | blank => exact quiet_nil
  | problem p => cases hnone
  | setStep object =>
      unfold code
      refine Guards.quiet (.of_plain h (guards_of_trimStart (by decide))) ?_
      simp only [single_append, Plain.single h, true_and]
      simp [Single]
  | newOption object text | newCondition object text | setEvent object text _
  | setSignal object text _ | setWindow object text =>
      unfold code
      refine Guards.quiet ?_ ?_
      · simp only [String.append_assoc]
        exact .of_plain h ((guards_of_trimStart (by decide)).append _)
      · simp only [single_append, Plain.single h, single_findObject, single_quoted,
          single_className, true_and, and_true]
        simp [Single]
  | addChild object child | setNegated object child =>
      unfold code
      refine Guards.quiet ?_ ?_
      · simp only [String.append_assoc]
        exact .of_plain h.1 ((guards_of_trimStart (by decide)).append _)
      · simp only [single_append, h.1.single, h.2.single, true_and, and_true]
        simp [Single]
  | addOption object target | addCondition object target =>
      unfold code
      refine Guards.quiet ?_ ?_
      · simp only [String.append_assoc]
        exact (guards_of_trimStart (by decide)).append _
      · simp only [single_append, h.1.single, h.2.single, and_true]
        simp [Single]
  | setProperty object owner property value =>
      unfold code
      rw [String.toList_append, String.toList_append]
      refine (Guards.quiet_append ?_ ?_ h.2).close
      · simp only [String.append_assoc]
        exact .of_plain h.1 ((guards_of_trimStart (by decide)).append _)
      · simp only [single_append, h.1.single, single_findObject, single_quoted, true_and,
          and_true]
        simp [Single]

theorem reports_text {statement : Statement} (h : statement.Clear) (level : Nat) :
    Reports (statement.text level).toList statement.problem?.toList := by
  cases hproblem : statement.problem? with
  | some p =>
      cases statement with
      | problem other =>
          cases hproblem
          exact reports_problem level p
      | _ => cases hproblem
  | none =>
      have hcode := reports_line (quiet_code h hproblem) level
      cases statement with
      | blank => exact reports_break
      | _ => exact hcode

end Statement

/-!
# Blocks

A block reports what its statements report.  A text that it repeats is looked at line by line.
-/

namespace Block

/-- The problems that stand in the block. -/
def problems : Block -> List Problem
  | problem p => [p]
  | function _ _ statements _ => statements.filterMap Statement.problem?
  | _ => []

/-- Names are as they should be, and texts that are repeated do not look like reports. -/
def Clear : Block -> Prop
  | stepComment id => Quiet id.toList
  | newStep object _ => Plain object
  | setText object context _ => Plain object ∧ Single context
  | addStep object => Single object
  | function name parameter statements code =>
      Single name ∧ Single parameter ∧ (forall statement, statement ∈ statements ->
        statement.Clear) ∧ Quiet code.toList
  | connect object signal callee => Single object ∧ Single signal ∧ Single callee
  | _ => True

/-!
## The license

Every line of the frame begins with a star or opens the comment.
-/

theorem reports_boxLine {piece : List Char} (hpiece : '\n' ∉ piece) (width : Nat) :
    Reports (boxLine width piece) [] := by
  have hguards : Guards " *   " := guards_of_trimStart (by decide)
  let content := piece ++ List.replicate (width - piece.length) ' ' ++ "   *".toList
  have hline : boxLine width piece = (" *   ".toList ++ content) ++ ['\n'] := by
    unfold boxLine
    simp [content]
  rw [hline]
  refine Quiet.reports (quiet_of_no_break ?_ (hguards content))
  simp [content, hpiece]

theorem reports_box (cs : List Char) : Reports (box cs) [] := by
  let lines := pieces (· == '\n') cs
  let border := List.replicate (boxWidth lines) '*'
  have hbox : box cs = ("/****".toList ++ (border ++ "****".toList)) ++ ['\n'] ++
      lines.flatMap (boxLine (boxWidth lines)) ++
      ((" ****".toList ++ (border ++ "****/".toList)) ++ ['\n']) ++ "\n".toList := by
    unfold box
    simp [lines, border]
  have hborder : '\n' ∉ border := by
    intro hbreak
    exact absurd (List.eq_of_mem_replicate hbreak) (by decide)
  have hfirst : Quiet ("/****".toList ++ (border ++ "****".toList)) := by
    have hguards : Guards "/****" := guards_of_trimStart (by decide)
    refine quiet_of_no_break ?_ (hguards _)
    simp [hborder]
  have hlast : Quiet (" ****".toList ++ (border ++ "****/".toList)) := by
    have hguards : Guards " ****" := guards_of_trimStart (by decide)
    refine quiet_of_no_break ?_ (hguards _)
    simp [hborder]
  have hlines : Reports (lines.flatMap (boxLine (boxWidth lines))) [] := by
    have hall : forall piece, piece ∈ lines ->
        Reports (boxLine (boxWidth lines) piece) [] := by
      intro piece hpiece
      exact reports_boxLine (break_not_mem_of_mem_pieces hpiece) _
    have hflat := Reports.flatMap hall
    rwa [List.flatMap_eq_nil_iff.mpr (fun _ _ => rfl)] at hflat
  rw [hbox]
  exact ((hfirst.reports.append hlines).append hlast.reports).append reports_break

/-!
## Reports of a block

Blocks are taken apart into lines that begin with code and texts that are quiet.
-/

theorem reports_setInformation (setter : String) (hsetter : Single setter) (value : String) :
    Reports (setInformation setter value).toList [] := by
  have hguards : Guards "tutorial.tutorialInformationAsObject()." :=
    guards_of_trimStart (by decide)
  refine Guards.reports ?_ ?_ 0
  · simp only [String.append_assoc]
    exact hguards.append _
  · simp only [single_append, hsetter, single_quoted, and_true]
    simp [Single]

theorem reports_statements {statements : List Statement}
    (h : forall statement, statement ∈ statements -> statement.Clear) :
    Reports (statementsText statements).toList (statements.filterMap Statement.problem?) := by
  have hall := Reports.flatMap fun statement hmem => Statement.reports_text (h statement hmem) 1
  unfold statementsText
  rw [String.toList_join, List.flatMap_map, List.filterMap_eq_flatMap_toList]
  exact hall

theorem reports_function {name parameter code : String} {statements : List Statement}
    (hname : Single name) (hparameter : Single parameter)
    (hstatements : forall statement, statement ∈ statements -> statement.Clear)
    (hcode : Quiet code.toList) :
    Reports (function name parameter statements code).text.toList
      (statements.filterMap Statement.problem?) := by
  have hopen : Reports (line 0 ("function " ++ name ++ "(" ++ parameter ++ ") \x7b")).toList
      [] := by
    refine Guards.reports ?_ ?_ 0
    · simp only [String.append_assoc]
      exact (guards_of_trimStart (by decide)).append _
    · simp only [single_append, hname, hparameter, and_true]
      simp [Single]
  have hclose : Reports (line 0 "\x7d").toList [] :=
    (guards_of_trimStart (by decide)).reports (by decide) 0
  have hall := ((hopen.append (reports_statements hstatements)).append
    (reports_indentCode hcode 1)).append hclose
  simpa [text] using hall

theorem reports_connect {object signal callee : String} (hobject : Single object)
    (hsignal : Single signal) (hcallee : Single callee) :
    Reports (connect object signal callee).text.toList [] := by
  have hfirst : Reports (line 0 ("connect(" ++ object ++ ", \"" ++ signal ++
      "(QObject*)\",")).toList [] := by
    refine Guards.reports ?_ ?_ 0
    · simp only [String.append_assoc]
      exact (guards_of_trimStart (by decide)).append _
    · simp only [single_append, hobject, hsignal, and_true]
      simp [Single]
  have hsecond : Reports (line 0 ("        this, \"" ++ callee ++ "(QObject*)\");")).toList
      [] := by
    refine Guards.reports ?_ ?_ 0
    · simp only [String.append_assoc]
      exact (guards_of_trimStart (by decide)).append _
    · simp only [single_append, hcallee, and_true]
      simp [Single]
  unfold text
  rw [String.toList_append, String.toList_append]
  exact (hfirst.append hsecond).append reports_break

theorem reports_text {block : Block} (h : block.Clear) :
    Reports block.text.toList block.problems := by
  cases block with
  | license content =>
      unfold text
      rw [String.toList_ofList]
      exact reports_box content.toList
  | translations =>
      have hline : text translations =
          line 0 "t = Kross.module(\"kdetranslation\");" ++ "\n" := by
        decide
      rw [hline, String.toList_append]
      refine Reports.append (Guards.reports ?_ ?_ 0) reports_break
      · exact guards_of_trimStart (by decide)
      · decide
  | gap => exact reports_break
  | problem p => exact reports_problem 0 p
  | setName name => exact reports_setInformation "setName" (by decide) name
  | setDescription description =>
      exact reports_setInformation "setDescription" (by decide) description
  | stepComment id =>
      have hguards : Guards "//Step " := guards_of_trimStart (by decide)
      unfold text
      refine reports_line ?_ 0
      rw [String.toList_append]
      exact hguards.quiet_append (by decide) h
  | newStep object id =>
      refine Guards.reports ?_ ?_ 0
      · simp only [String.append_assoc]
        exact .of_plain h ((guards_of_trimStart (by decide)).append _)
      · simp only [single_append, Plain.single h, single_quoted, true_and, and_true]
        simp [Single]
  | setText object context content =>
      refine Guards.reports ?_ ?_ 0
      · simp only [String.append_assoc]
        exact .of_plain h.1 ((guards_of_trimStart (by decide)).append _)
      · simp only [single_append, h.1.single, h.2, single_quoted, true_and, and_true]
        simp [Single]
  | addStep object =>
      refine Guards.reports ?_ ?_ 0
      · simp only [String.append_assoc]
        exact (guards_of_trimStart (by decide)).append _
      · simp only [single_append, show Single object from h, and_true]
        simp [Single]
  | function name parameter statements code =>
      exact reports_function h.1 h.2.1 h.2.2.1 h.2.2.2
  | connect object signal callee => exact reports_connect h.1 h.2.1 h.2.2

end Block
end Script
end TutorialKit
