import TutorialKit.Proofs.Script.Setup
import TutorialKit.Script.Exporter

/-!
# What exporters write

Whatever an exporter writes for a step, it stands afterwards where it stood before: no line is
indented, no handler waits and no name is in use.  A script is what is written for the tutorial
without its steps and then one piece for every step, whatever the exporter wrote before.
-/

namespace TutorialKit

open Script

namespace Script

theorem blocksText_append (blocks others : List Block) :
    blocksText (blocks ++ others) = blocksText blocks ++ blocksText others := by
  rw [blocksText, List.map_append, String.join_append]
  rfl

@[simp] theorem blocksText_nil : blocksText [] = "" := rfl

theorem blocksText_cons (block : Block) (rest : List Block) :
    blocksText (block :: rest) = block.text ++ blocksText rest := by
  rw [blocksText, List.map_cons, String.join_cons]
  rfl

theorem blocksText_flatMap {α : Type} (blocks : α -> List Block) (items : List α) :
    blocksText (items.flatMap blocks) =
      String.join (items.map fun item => blocksText (blocks item)) := by
  induction items with
  | nil => rfl
  | cons first rest ih =>
      rw [List.flatMap_cons, blocksText_append, ih, List.map_cons, String.join_cons]

namespace Handler

def text (handler : Handler) : String :=
  (Block.function handler.name ""
    (if handler.code = "" then [.problem .handlerCode] else []) handler.code).text

theorem text_eq (name code : String) :
    text ⟨name, code⟩ = "function " ++ name ++ "() \x7b\n" ++
      (if code = "" then indentCode 1 (Problem.marker ++ Problem.handlerCode.message ++ "\n")
        else indentCode 1 code) ++ "\x7d\n" := by
  have hproblem : indentCode 1 (Problem.marker ++ Problem.handlerCode.message ++ "\n") =
      Statement.text 1 (.problem .handlerCode) := by decide
  have hline (text : String) : line 0 text = text ++ "\n" := by
    simp [line, indentation]
  rw [hproblem, Handler.text, Block.text, hline, hline]
  by_cases hcode : code = ""
  · subst hcode
    simp [Block.statementsText, String.join, indentCode, indentChars, String.append_assoc]
  · simp [hcode, Block.statementsText, String.join, String.append_assoc]

theorem blocksText_blocks (handler : Handler) :
    blocksText handler.blocks = handler.text ++ "\n" := by
  simp only [blocks, blocksText_cons]
  rfl

end Handler

namespace Exporter

/-!
# Statements

A statement is written at the level where the exporter stands, and takes names that are not in use
yet.
-/

def after (scope : Scope) (statements : List Statement) (handlers : List Handler)
    (exporter : Exporter) : Exporter :=
  { exporter with
    output := exporter.output ++ String.join (statements.map (Statement.text exporter.level))
    pending := exporter.pending ++ handlers.map Handler.text
    scope := scope }

theorem after_after (scope later : Scope) (statements others : List Statement)
    (handlers more : List Handler) (exporter : Exporter) :
    (exporter.after scope statements handlers).after later others more =
      exporter.after later (statements ++ others) (handlers ++ more) := by
  simp only [after, List.map_append, String.join_append, String.append_assoc, List.append_assoc]

@[simp] theorem scope_after (scope : Scope) (statements : List Statement)
    (handlers : List Handler) (exporter : Exporter) :
    (exporter.after scope statements handlers).scope = scope := rfl

theorem after_nothing (exporter : Exporter) : exporter.after exporter.scope [] [] = exporter := by
  simp [after, String.join]

theorem write_eq (statement : Statement) (exporter : Exporter) :
    exporter.write statement = exporter.after exporter.scope [statement] [] := by
  simp [after, write, put, String.join]

theorem addVariable_eq (name : String) (exporter : Exporter) :
    exporter.addVariable name =
      (exporter.scope.variableFor name, exporter.after (exporter.scope.request name) [] []) := by
  simp [after, addVariable, String.join]

theorem addFunction_eq (name code : String) (exporter : Exporter) :
    exporter.addFunction name code = exporter.after exporter.scope [] [⟨name, code⟩] := by
  simp only [after, addFunction, Handler.text_eq, List.map_nil, List.map_cons, String.join_nil,
    String.append_empty]

theorem writes_eq (statements : List Statement) (exporter : Exporter) :
    statements.foldl (fun exporter statement => exporter.write statement) exporter =
      exporter.after exporter.scope statements [] := by
  induction statements generalizing exporter with
  | nil => exact exporter.after_nothing.symm
  | cons statement rest ih => rw [List.foldl_cons, write_eq, ih, scope_after, after_after]; rfl

/-!
# Conditions

The induction is on the condition, as the exporter goes through it; the names in use are carried
along.
-/

theorem writeLeaf_eq (leaf : Leaf) (exporter : Exporter) :
    exporter.writeLeaf leaf = ((leaf.emit exporter.scope).object,
      exporter.after (leaf.emit exporter.scope).scope
        (leaf.emit exporter.scope).statements []) := by
  rw [writeLeaf, Leaf.emit]
  cases leaf.problem? with
  | some problem => simp only [write_eq]
  | none => simp only [addVariable_eq, write_eq, scope_after, after_after]; rfl

/-- The condition is written as the statements for it, wherever it stands. -/
def Follows (condition : Condition) : Prop :=
  forall exporter : Exporter, exporter.writeCondition condition =
    ((condition.emit exporter.scope).object,
      exporter.after (condition.emit exporter.scope).scope
        (condition.emit exporter.scope).statements [])

theorem writeConditions_eq {conditions : List Condition}
    (h : forall condition, condition ∈ conditions -> Follows condition) (exporter : Exporter) :
    exporter.writeConditions conditions =
      ((Condition.emitAll exporter.scope conditions).objects,
        exporter.after (Condition.emitAll exporter.scope conditions).scope
          (Condition.emitAll exporter.scope conditions).statements []) := by
  induction conditions generalizing exporter with
  | nil =>
      rw [writeConditions, Condition.emitAll, after_nothing]
  | cons first rest ih =>
      rw [List.forall_mem_cons] at h
      simp only [writeConditions, h.1 exporter, write_eq, ih h.2, scope_after, after_after,
        Condition.emitAll, List.append_assoc]
      rfl

theorem writeCondition_eq (condition : Condition) : Follows condition := by
  induction condition with
  | leaf l =>
      intro exporter
      rw [writeCondition, Condition.emit, writeLeaf_eq]
  | composed composition children ih =>
      intro exporter
      have hadd (object : String) (objects : List String) (created : Exporter) :
          objects.foldl (fun exporter child => exporter.write (.addChild object child)) created =
            created.after created.scope (objects.map (.addChild object)) [] := by
        rw [← writes_eq, List.foldl_map]
      simp only [writeCondition, hadd]
      simp [writeConditions_eq ih, addVariable_eq, write_eq, after_after, Condition.emit]
  | unset =>
      intro exporter
      rw [writeCondition, Condition.emit, write_eq]
  | negation child ih =>
      intro exporter
      simp only [writeCondition, addVariable_eq, ih _, write_eq, scope_after, after_after,
        Condition.emit]
      cases (child.emit (exporter.scope.request "waitForNot")).object with
      | none => simp
      | some negated => simp

/-!
# Reactions

A reaction may leave a handler, which waits until the function that registers it has been written.
-/

theorem answer_eq (register : Target -> Statement) (handler : String) (reaction : Reaction)
    (exporter : Exporter) :
    exporter.answer register handler reaction =
      exporter.after exporter.scope [register (reaction.target handler)]
        (reaction.handlers handler) := by
  rw [answer, Reaction.target, Reaction.handlers]
  cases reaction.response with
  | nextStep => exact write_eq _ exporter
  | customCode => simp only [write_eq, addFunction_eq, scope_after, after_after]; rfl

theorem writeReaction_eq (step : String) (reaction : Reaction) (exporter : Exporter) :
    exporter.writeReaction step reaction =
      exporter.after (reaction.register step exporter.scope).scope
        (reaction.register step exporter.scope).statements
        (reaction.register step exporter.scope).handlers := by
  rw [writeReaction, Reaction.register]
  cases reaction.problem? with
  | some problem => exact write_eq _ exporter
  | none =>
      cases reaction.trigger with
      | optionSelected =>
          simp only [Reaction.registerOption, addVariable_eq, write_eq, answer_eq, scope_after,
            after_after]
          rfl
      | conditionMet =>
          cases reaction.condition with
          | none => exact exporter.after_nothing.symm
          | some condition =>
              simp only [Reaction.registerCondition, writeCondition_eq condition exporter]
              cases (condition.emit exporter.scope).object with
              | none => rfl
              | some object => simp only [answer_eq, scope_after, after_after]; rfl

theorem writeReactions_eq (step : String) (closed : Bool) (reactions : List Reaction)
    (exporter : Exporter) :
    exporter.writeReactions step closed reactions =
      exporter.after (Reaction.registerAll step closed exporter.scope reactions).scope
        (Reaction.registerAll step closed exporter.scope reactions).statements
        (Reaction.registerAll step closed exporter.scope reactions).handlers := by
  induction reactions generalizing exporter with
  | nil => exact exporter.after_nothing.symm
  | cons reaction rest ih =>
      rw [writeReactions, ih, writeReaction_eq, Reaction.registerAll]
      split <;> simp [write_eq, after_after]

/-!
# Steps

Between two pieces of a script an exporter holds nothing but its text.
-/

def holding (text : String) : Exporter := { output := text }

theorem line_holding (written text : String) :
    (holding written).line text = holding (written ++ Script.line 0 text) := rfl

theorem put_holding (written text : String) :
    (holding written).put text = holding (written ++ text) := rfl

theorem connect_eq (object signal callee : String) {exporter : Exporter}
    (hlevel : exporter.level = 0) :
    exporter.connect object signal callee =
      exporter.put (Block.connect object signal callee).text := by
  simp only [connect, line, put, hlevel, Block.text, String.append_assoc]

theorem writeFunction_holding (scope : Scope) (statements : List Statement)
    (handlers : List Handler) (code : String) {body : Exporter -> Exporter}
    (hbody : forall exporter : Exporter, exporter.scope = Scope.empty ->
      body exporter = (exporter.after scope statements handlers).putCode code)
    (name parameter written : String) :
    (holding written).writeFunction name parameter body =
      { output := written ++ (Block.function name parameter statements code).text
        pending := handlers.map Handler.text
        scope := scope } := by
  rw [writeFunction, line_holding, hbody _ rfl]
  simp [after, putCode, put, line, outdent, indent, holding, Block.text, Block.statementsText,
    String.append_assoc]

theorem writeFunction_code (name parameter code written : String) :
    (holding written).writeFunction name parameter (putCode code) =
      holding (written ++ (Block.function name parameter [] code).text) :=
  writeFunction_holding Scope.empty [] [] code
    (fun exporter hscope => by rw [← hscope, after_nothing]) name parameter written

theorem blocksText_handlers (handlers : List Handler) :
    blocksText (handlers.flatMap Handler.blocks) =
      String.join ((handlers.map Handler.text).map (· ++ "\n")) := by
  rw [blocksText_flatMap, List.map_map]
  exact congrArg String.join (List.map_congr_left fun handler _ => handler.blocksText_blocks)

theorem writeSetup_holding (step : Step) (written : String) :
    (holding written).writeSetup step =
      holding (written ++ blocksText (step.setupBlocks Scope.empty).2) := by
  rw [writeSetup, Step.setupBlocks]
  split
  · rw [blocksText_nil, String.append_empty]
  · have hbody (exporter : Exporter) (hscope : exporter.scope = Scope.empty) :=
      congrArg (putCode step.setup) (hscope ▸
        writeReactions_eq step.objectName (step.setup != "") step.reactions exporter)
    dsimp only
    rw [writeFunction_holding _ _ _ step.setup hbody, connect_eq _ _ _ rfl, blocksText_append,
      blocksText_cons, blocksText_cons, blocksText_handlers]
    simp only [put, flush, holding, String.append_assoc]
    rfl

theorem writeTearDown_holding (step : Step) (written : String) :
    (holding written).writeTearDown step = holding (written ++ blocksText step.tearDownBlocks) := by
  rw [writeTearDown, Step.tearDownBlocks]
  split
  · rw [blocksText_nil, String.append_empty]
  · dsimp only
    rw [writeFunction_code, connect_eq _ _ _ rfl, put_holding, blocksText_cons, blocksText_cons,
      blocksText_nil, String.append_empty, String.append_assoc]

end Exporter
end Script

namespace Step

/-- The part of a script that stands for the step. -/
def script (step : Step) : String :=
  blocksText (step.blocks Scope.empty).2

end Step

namespace Script
namespace Exporter

theorem writeText_holding (step : Step) (written : String) :
    (holding written).writeText step = holding (written ++ step.textBlock.text) := by
  rw [writeText, Step.textBlock]
  split <;> rfl

theorem writeStep_holding (step : Step) (written : String) :
    (holding written).writeStep step = holding (written ++ step.script) := by
  rw [writeStep, Step.script, Step.blocks]
  split
  · simp only [line_holding, put_holding, blocksText_cons, blocksText_nil, String.append_empty,
      String.append_assoc, Block.text]
  · simp only [line_holding, put_holding, writeText_holding, writeSetup_holding,
      writeTearDown_holding, blocksText_append, blocksText_cons, blocksText_nil,
      String.append_empty, String.append_assoc, Block.text]

/-!
# Tutorials

The parts of a tutorial before its steps are written in the same way, each from rest to rest.
-/

theorem writeDetail_holding (setter value written : String) (missing : Problem) :
    (holding written).writeDetail setter value missing =
      holding (written ++ (if value = "" then (Block.problem missing).text
        else Block.setInformation setter value)) := by
  rw [writeDetail]
  split <;> rfl

theorem writeOwnFunction_holding (name signal code written : String) :
    (holding written).writeOwnFunction name signal code =
      holding (written ++ blocksText (Tutorial.functionBlocks name signal code)) := by
  rw [writeOwnFunction, Tutorial.functionBlocks]
  split
  · rw [blocksText_nil, String.append_empty]
  · rw [writeFunction_code, connect_eq _ _ _ rfl, put_holding, blocksText_cons, blocksText_cons,
      blocksText_nil, String.append_empty, String.append_assoc]

theorem writeLicense_holding (license written : String) :
    (holding written).writeLicense license =
      holding (written ++ blocksText (if license = "" then [] else [.license license])) := by
  rw [writeLicense]
  split
  · rw [blocksText_nil, String.append_empty]
  · rw [put_holding, blocksText_cons, blocksText_nil, String.append_empty]
    rfl

theorem writeInformation_holding (tutorial : Tutorial) (written : String) :
    (holding written).writeInformation tutorial =
      holding (written ++ blocksText tutorial.informationBlocks) := by
  have htext (value : String) (missing : Problem) (present : Block) :
      (if value = "" then Block.problem missing else present).text =
        if value = "" then (Block.problem missing).text else present.text := by
    split <;> rfl
  simp only [writeInformation, writeDetail_holding, put_holding, Tutorial.informationBlocks,
    blocksText_cons, blocksText_nil, htext, String.append_empty, String.append_assoc]
  rfl

theorem writeHead_holding (tutorial : Tutorial) (written : String) :
    (holding written).writeHead tutorial =
      holding (written ++ blocksText tutorial.headBlocks) := by
  simp only [writeHead, Tutorial.headBlocks, writeLicense_holding, put_holding,
    writeInformation_holding, writeOwnFunction_holding, blocksText_append, blocksText_cons,
    blocksText_nil, String.append_empty, String.append_assoc]
  rfl

/-- Every step leaves the exporter between two pieces, so the next one begins afresh. -/
theorem foldl_writeStep_holding (steps : List Step) (written : String) :
    steps.foldl writeStep (holding written) =
      holding (written ++ String.join (steps.map Step.script)) := by
  induction steps generalizing written with
  | nil => rw [List.foldl_nil, List.map_nil, String.join_nil, String.append_empty]
  | cons step rest ih =>
      rw [List.foldl_cons, writeStep_holding, ih, List.map_cons, String.join_cons,
        String.append_assoc]

/-- Every run writes the same for a tutorial and ends where an exporter begins. -/
theorem run_eq_head_append (exporter : Exporter) (tutorial : Tutorial) :
    exporter.run tutorial =
      ({}, blocksText tutorial.headBlocks ++ String.join (tutorial.steps.map Step.script)) := by
  have hclear : exporter.clear = holding "" := rfl
  rw [run, hclear, writeHead_holding, foldl_writeStep_holding]
  simp [holding]

/-- The script of a tutorial is what any exporter writes for it. -/
theorem run_eq_toScript (exporter : Exporter) (tutorial : Tutorial) :
    exporter.run tutorial = ({}, tutorial.toScript) := by
  rw [run_eq_head_append, Tutorial.toScript, Tutorial.scriptBlocks, Step.blocksAll_empty,
    blocksText_append, blocksText_flatMap]
  rfl

/--
Whatever an exporter wrote before, a tutorial becomes what is written for it without its steps,
and then one piece for every step that depends on nothing but the step.  The exporter is then as
good as new.
-/
theorem run_eq_pieces (exporter : Exporter) (earlier : List Tutorial) (tutorial : Tutorial) :
    let reused := (exporter.runAll earlier).1
    let header := (({} : Exporter).run { tutorial with steps := [] }).2
    reused.run tutorial = ({}, header ++ String.join (tutorial.steps.map Step.script)) ∧
      reused.run tutorial = ({} : Exporter).run tutorial ∧
      (reused.run tutorial).2 = tutorial.toScript ∧
      forall steps : List Step, reused.run { tutorial with steps := steps } =
        ({}, header ++ String.join (steps.map Step.script)) := by
  intro reused header
  have hheader : header = blocksText tutorial.headBlocks := by
    simp only [header, run_eq_head_append, List.map_nil, String.join_nil, String.append_empty]
    rfl
  refine ⟨?whole, ?fresh, ?script, ?others⟩
  case whole => rw [hheader, run_eq_head_append]
  case fresh => rw [run_eq_head_append, run_eq_head_append]
  case script => rw [run_eq_toScript]
  case others =>
    intro steps
    rw [hheader, run_eq_head_append]
    rfl

end Exporter
end Script
end TutorialKit
