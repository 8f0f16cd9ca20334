import Mathlib.Algebra.GroupWithZero.Nat
import TutorialKit.Proofs.Script.Check

/-!
# Line breaks in a script

The texts of a tutorial stand in its script in several forms: quoted, as part of a name, in a
comment.  Code, the license and the values of properties keep their line breaks there; the other
texts should have none of their own.  With blanks in place of the line breaks in those texts, a
script has as many lines as before, apart from the line breaks in the ids of steps.
-/

namespace TutorialKit

open Script

/-!
# Texts without line breaks

Line breaks are counted, and a text that ends with one has as many lines.
-/

namespace Text

def unbreak (c : Char) : Char :=
  if c = '\n' then ' ' else c

/-- A text with blanks in place of its line breaks. -/
def unbroken (text : String) : String :=
  String.ofList (text.toList.map unbreak)

def breaks (text : String) : Nat :=
  text.toList.count '\n'

@[simp] theorem unbroken_eq_empty_iff {text : String} : unbroken text = "" ↔ text = "" := by
  rw [← String.toList_inj, ← String.toList_inj]
  simp [unbroken]

@[simp] theorem breaks_append (first second : String) :
    breaks (first ++ second) = breaks first + breaks second := by
  simp [breaks]

theorem breaks_eq_zero_iff {text : String} : breaks text = 0 ↔ Single text :=
  List.count_eq_zero

theorem single_unbroken (text : String) : Single (unbroken text) := by
  rw [Single, unbroken, String.toList_ofList, List.mem_map]
  rintro ⟨c, -, hc⟩
  unfold unbreak at hc
  split at hc
  · cases hc
  · contradiction

theorem breaks_join (texts : List String) :
    breaks (String.join texts) = (texts.map breaks).sum := by
  induction texts with
  | nil => rfl
  | cons text rest ih => rw [String.join_cons, breaks_append, ih, List.map_cons, List.sum_cons]

theorem length_lines_of_final_break (text : String) :
    (lines (text ++ "\n")).length = breaks (text ++ "\n") := by
  have hlines := linesOf_append text.toList []
  simp only [lines, List.length_map, String.toList_append]
  rw [show "\n".toList = ['\n'] from rfl, hlines, List.length_append, List.length_map,
    length_pieces, breaks_append]
  rfl

/-!
# Names

A line break separates the words of a name as a blank does, so names are made from either alike.
-/

theorem pieces_map {cut : Char -> Bool} {f : Char -> Char}
    (hcut : forall c, cut (f c) = cut c) (hkept : forall c, cut c = false -> f c = c)
    (cs : List Char) : pieces cut (cs.map f) = pieces cut cs := by
  induction cs with
  | nil => rfl
  | cons c rest ih =>
      rw [List.map_cons, pieces, pieces, ih, hcut]
      cases hc : cut c with
      | true => rfl
      | false => rw [hkept c hc]

theorem upper_map_unbreak (cs : List Char) :
    CamelCase.upper (cs.map unbreak) = CamelCase.upper cs := by
  unfold CamelCase.upper CamelCase.words
  rw [pieces_map]
  · intro c
    by_cases hc : c = '\n'
    · rw [hc]
      decide
    · rw [unbreak, if_neg hc]
  · intro c hc
    rw [unbreak, if_neg]
    rintro rfl
    revert hc
    decide

@[simp] theorem upperCamelCase_unbroken (text : String) :
    upperCamelCase (unbroken text) = upperCamelCase text := by
  rw [upperCamelCase, unbroken, String.toList_ofList, upper_map_unbreak, upperCamelCase]

@[simp] theorem lowerCamelCase_unbroken (text : String) :
    lowerCamelCase (unbroken text) = lowerCamelCase text := by
  rw [lowerCamelCase, unbroken, String.toList_ofList, CamelCase.lower, upper_map_unbreak,
    lowerCamelCase, CamelCase.lower]

end Text

namespace Script

open Text

@[simp] theorem withoutArguments_unbroken (name : String) :
    withoutArguments (unbroken name) = unbroken (withoutArguments name) := by
  have hbracket : (fun c => c != '(') ∘ unbreak = fun c => c != '(' := by
    funext c
    by_cases hc : c = '\n'
    · rw [Function.comp_apply, hc]
      decide
    · rw [Function.comp_apply, unbreak, if_neg hc]
  rw [withoutArguments, unbroken, String.toList_ofList, List.takeWhile_map, hbracket, unbroken,
    withoutArguments, String.toList_ofList]

@[simp] theorem breaks_quoted (text : String) : breaks (quoted text) = 0 :=
  breaks_eq_zero_iff.mpr (single_quoted text)

/-!
# Statements

A statement quotes its arguments, which escapes their line breaks.
-/

namespace Target

def unbroken : Target -> Target
  | step id => step (Text.unbroken id)
  | handler function => handler function

@[simp] theorem breaks_arguments_unbroken (target : Target) :
    breaks target.unbroken.arguments = breaks target.arguments := by
  cases target <;> simp [unbroken, arguments]

end Target

namespace Statement

def unbroken : Statement -> Statement
  | blank => blank
  | problem p => problem p
  | newOption object caption => newOption object (Text.unbroken caption)
  | newCondition object kind => newCondition object kind
  | setEvent object receiver event =>
      setEvent object (Text.unbroken receiver) (Text.unbroken event)
  | setProperty object owner property value =>
      setProperty object (Text.unbroken owner) (Text.unbroken property) value
  | setSignal object emitter signal =>
      setSignal object (Text.unbroken emitter) (Text.unbroken signal)
  | setWindow object window => setWindow object (Text.unbroken window)
  | setStep object => setStep object
  | addChild object child => addChild object child
  | setNegated object child => setNegated object child
  | addOption object target => addOption object target.unbroken
  | addCondition object target => addCondition object target.unbroken

theorem breaks_findObject (name : String) : breaks (findObject name) = 0 :=
  breaks_eq_zero_iff.mpr (single_findObject name)

theorem breaks_code_unbroken (statement : Statement) :
    breaks statement.unbroken.code = breaks statement.code := by
  cases statement with
  | blank | problem | newCondition | setStep | addChild | setNegated => rfl
  | newOption object caption =>
      simp only [unbroken]
      unfold code
      simp only [breaks_append, breaks_quoted]
  | setEvent | setProperty | setSignal | setWindow =>
      simp only [unbroken]
      unfold code
      simp only [breaks_append, breaks_findObject, breaks_quoted]
  | addOption object target | addCondition object target =>
      simp only [unbroken]
      unfold code
      simp only [breaks_append, Target.breaks_arguments_unbroken]

theorem breaks_text_unbroken (statement : Statement) (level : Nat) :
    breaks (statement.unbroken.text level) = breaks (statement.text level) := by
  have hline : breaks (line level statement.unbroken.code) =
      breaks (line level statement.code) := by
    simp only [line, breaks_append, breaks_code_unbroken]
  cases statement with
  | blank => rfl
  | _ => exact hline

end Statement

theorem breaks_statementsText_unbroken (statements : List Statement) :
    breaks (Block.statementsText (statements.map Statement.unbroken)) =
      breaks (Block.statementsText statements) := by
  rw [Block.statementsText, Block.statementsText, breaks_join, breaks_join, List.map_map,
    List.map_map, List.map_map]
  congr 2
  funext statement
  exact statement.breaks_text_unbroken 1

theorem breaks_function_unbroken (name parameter : String) (statements : List Statement)
    (code : String) :
    breaks (Block.function name parameter (statements.map Statement.unbroken) code).text =
      breaks (Block.function name parameter statements code).text := by
  simp only [Block.text, breaks_append, breaks_statementsText_unbroken]

end Script

/-!
# Conditions

What is written for a condition is the same up to the line breaks in its arguments.
-/

namespace Leaf

/-- The leaf with blanks for line breaks in all but the value of a property. -/
def unbroken : Leaf -> Leaf
  | event receiver name => event (Text.unbroken receiver) (Text.unbroken name)
  | property object name value => property (Text.unbroken object) (Text.unbroken name) value
  | signal emitter name => signal (Text.unbroken emitter) (Text.unbroken name)
  | window name => window (Text.unbroken name)
  | stepActivation => stepActivation

@[simp] theorem problem?_unbroken (leaf : Leaf) : leaf.unbroken.problem? = leaf.problem? := by
  cases leaf <;> simp [unbroken, problem?]

@[simp] theorem objectName_unbroken (leaf : Leaf) :
    leaf.unbroken.objectName = leaf.objectName := by
  cases leaf <;> simp [unbroken, objectName]

@[simp] theorem objectKind_unbroken (leaf : Leaf) :
    leaf.unbroken.objectKind = leaf.objectKind := by
  cases leaf <;> rfl

@[simp] theorem assignment_unbroken (leaf : Leaf) (object : String) :
    leaf.unbroken.assignment object = (leaf.assignment object).unbroken := by
  cases leaf <;> rfl

end Leaf

namespace Script

def Emitted.unbroken (emitted : Emitted) : Emitted :=
  { emitted with statements := emitted.statements.map Statement.unbroken }

def EmittedAll.unbroken (emitted : EmittedAll) : EmittedAll :=
  { emitted with statements := emitted.statements.map Statement.unbroken }

def Registered.unbroken (registered : Registered) : Registered :=
  { registered with statements := registered.statements.map Statement.unbroken }

end Script

theorem Leaf.emit_unbroken (leaf : Leaf) (scope : Scope) :
    leaf.unbroken.emit scope = (leaf.emit scope).unbroken := by
  unfold Leaf.emit
  rw [Leaf.problem?_unbroken]
  cases leaf.problem? with
  | some problem => rfl
  | none => simp [Emitted.unbroken, Statement.unbroken]

namespace Condition

mutual

def unbroken : Condition -> Condition
  | leaf l => leaf l.unbroken
  | composed composition children => composed composition (unbrokenAll children)
  | negation none => negation none
  | negation (some child) => negation (some (unbroken child))

def unbrokenAll : List Condition -> List Condition
  | [] => []
  | condition :: rest => unbroken condition :: unbrokenAll rest

end

theorem emitAll_unbroken {conditions : List Condition}
    (h : forall condition, condition ∈ conditions -> forall scope,
      condition.unbroken.emit scope = (condition.emit scope).unbroken) (scope : Scope) :
    emitAll scope (unbrokenAll conditions) = (emitAll scope conditions).unbroken := by
  induction conditions generalizing scope with
  | nil => rfl
  | cons condition rest ih =>
      rw [List.forall_mem_cons] at h
      rw [unbrokenAll, emitAll, emitAll, h.1, ih h.2]
      simp [Emitted.unbroken, EmittedAll.unbroken, Statement.unbroken]

theorem emit_unbroken (condition : Condition) (scope : Scope) :
    condition.unbroken.emit scope = (condition.emit scope).unbroken := by
  induction condition generalizing scope with
  | leaf l => exact l.emit_unbroken scope
  | composed composition children ih =>
      have hchildren (names : List String) (object : String) :
          (names.map (Statement.addChild object)).map Statement.unbroken =
            names.map (Statement.addChild object) := by
        simp [Statement.unbroken]
      rw [unbroken, emit, emit, emitAll_unbroken ih scope]
      simp [Emitted.unbroken, EmittedAll.unbroken, Statement.unbroken, hchildren]
  | unset => rfl
  | negation child ih =>
      rw [unbroken, emit, emit, ih]
      cases hobject : (child.emit (scope.request "waitForNot")).object <;>
        simp [Emitted.unbroken, Statement.unbroken, hobject]

end Condition

/-!
# Reactions

The response to a reaction names steps and functions, for which line breaks make no difference.
-/

namespace Reaction

def unbroken (reaction : Reaction) : Reaction :=
  { reaction with
    option := Text.unbroken reaction.option
    condition := reaction.condition.map Condition.unbroken
    nextStep := Text.unbroken reaction.nextStep }

@[simp] theorem problem?_unbroken (reaction : Reaction) :
    reaction.unbroken.problem? = reaction.problem? := by
  have hcondition : reaction.unbroken.condition.isNone = reaction.condition.isNone :=
    Option.isNone_map
  have hoption : reaction.unbroken.option = "" ↔ reaction.option = "" :=
    Text.unbroken_eq_empty_iff
  have hnext : reaction.unbroken.nextStep = "" ↔ reaction.nextStep = "" :=
    Text.unbroken_eq_empty_iff
  simp only [problem?, hcondition, hoption, hnext]
  rfl

@[simp] theorem target_unbroken (reaction : Reaction) (handler : String) :
    reaction.unbroken.target handler = (reaction.target handler).unbroken := by
  unfold target
  cases hresponse : reaction.response <;> simp [unbroken, hresponse, Target.unbroken]

@[simp] theorem handlers_unbroken (reaction : Reaction) (handler : String) :
    reaction.unbroken.handlers handler = reaction.handlers handler := rfl

theorem registerOption_unbroken (step : String) (scope : Scope) (reaction : Reaction) :
    reaction.unbroken.registerOption step scope =
      (reaction.registerOption step scope).unbroken := by
  have hname : Text.lowerCamelCase reaction.unbroken.option =
      Text.lowerCamelCase reaction.option := Text.lowerCamelCase_unbroken _
  have hhandler : Text.upperCamelCase reaction.unbroken.option =
      Text.upperCamelCase reaction.option := Text.upperCamelCase_unbroken _
  simp only [registerOption, hname, hhandler, target_unbroken, handlers_unbroken]
  rfl

theorem registerCondition_unbroken (step : String) (scope : Scope) (reaction : Reaction)
    (condition : Condition) :
    reaction.unbroken.registerCondition step scope condition.unbroken =
      (reaction.registerCondition step scope condition).unbroken := by
  unfold registerCondition
  rw [Condition.emit_unbroken]
  cases hobject : (condition.emit scope).object <;>
    simp [Emitted.unbroken, Registered.unbroken, Statement.unbroken, hobject]

theorem register_unbroken (step : String) (scope : Scope) (reaction : Reaction) :
    reaction.unbroken.register step scope = (reaction.register step scope).unbroken := by
  rcases reaction.register_cases step scope with ⟨problem, hproblem, hregister⟩ |
    ⟨hproblem, htrigger, hregister⟩ | ⟨condition, hproblem, htrigger, hcondition, hregister⟩
  · rw [hregister, register, problem?_unbroken, hproblem]
    rfl
  · rw [hregister, ← registerOption_unbroken, register, problem?_unbroken, hproblem,
      show reaction.unbroken.trigger = .optionSelected from htrigger]
  · rw [hregister, ← registerCondition_unbroken, register, problem?_unbroken, hproblem,
      show reaction.unbroken.trigger = .conditionMet from htrigger,
      show reaction.unbroken.condition = some condition.unbroken by simp [unbroken, hcondition]]

theorem registerAll_unbroken (step : String) (closed : Bool) (scope : Scope)
    (reactions : List Reaction) :
    registerAll step closed scope (reactions.map unbroken) =
      (registerAll step closed scope reactions).unbroken := by
  induction reactions generalizing scope with
  | nil => rfl
  | cons reaction rest ih =>
      have hblank (following : Bool) :
          (if following then [Statement.blank] else []).map Statement.unbroken =
            if following then [Statement.blank] else [] := by
        cases following <;> rfl
      rw [List.map_cons, registerAll, registerAll, register_unbroken, ih]
      simp only [Registered.unbroken, List.map_append, List.isEmpty_map, hblank]

end Reaction

/-!
# Steps

The id of a step stands in a comment, too, where it is left as it is.
-/

namespace Script

open Text

theorem breaks_blocksText_append (blocks others : List Block) :
    breaks (blocksText (blocks ++ others)) =
      breaks (blocksText blocks) + breaks (blocksText others) := by
  simp [blocksText, breaks_join]

theorem breaks_blocksText_cons (block : Block) (blocks : List Block) :
    breaks (blocksText (block :: blocks)) = breaks block.text + breaks (blocksText blocks) := by
  simp [blocksText, breaks_join]

end Script

namespace Step

open Text

def unbroken (step : Step) : Step :=
  { step with
    id := Text.unbroken step.id
    text := Text.unbroken step.text
    reactions := step.reactions.map Reaction.unbroken }

@[simp] theorem objectName_unbroken (step : Step) :
    step.unbroken.objectName = step.objectName := by
  simp [objectName, unbroken]

theorem tearDownBlocks_unbroken (step : Step) :
    step.unbroken.tearDownBlocks = step.tearDownBlocks := by
  unfold tearDownBlocks
  rw [objectName_unbroken]
  rfl

theorem breaks_textContext (text : String) : breaks (textContext text) = 0 :=
  breaks_eq_zero_iff.mpr (single_textContext text)

/-- A text that may hold markup for its first line may do so in another way for all of it, but
the context takes one line either way. -/
theorem breaks_textBlock_unbroken (step : Step) :
    breaks step.unbroken.textBlock.text = breaks step.textBlock.text := by
  have hempty : step.unbroken.text = "" ↔ step.text = "" := unbroken_eq_empty_iff
  unfold textBlock
  rw [objectName_unbroken]
  by_cases htext : step.text = ""
  · rw [if_pos htext, if_pos (hempty.mpr htext)]
  · rw [if_neg htext, if_neg (hempty.not.mpr htext)]
    simp only [Block.text, line, breaks_append, breaks_quoted, breaks_textContext]

theorem registered_unbroken (step : Step) (scope : Scope) :
    step.unbroken.registered scope = (step.registered scope).unbroken := by
  rw [registered, registered, objectName_unbroken]
  exact Reaction.registerAll_unbroken _ _ scope step.reactions

theorem breaks_setupBlocks_unbroken (step : Step) (scope : Scope) :
    breaks (blocksText (step.unbroken.setupBlocks scope).2) =
      breaks (blocksText (step.setupBlocks scope).2) := by
  have hidle : step.unbroken.reactions.isEmpty = step.reactions.isEmpty := List.isEmpty_map
  by_cases hsetup : (step.setup = "" && step.reactions.isEmpty) = true
  · rw [setupBlocks, setupBlocks, if_pos hsetup, if_pos (by rwa [hidle])]
  · rw [setupBlocks_of_not_idle hsetup, setupBlocks_of_not_idle (by rwa [hidle]),
      objectName_unbroken, registered_unbroken]
    have hcode : step.unbroken.setup = step.setup := rfl
    have hstatements : (step.registered scope).unbroken.statements =
        (step.registered scope).statements.map Statement.unbroken := rfl
    have hhandlers : (step.registered scope).unbroken.handlers =
        (step.registered scope).handlers := rfl
    rw [hcode, hstatements, hhandlers, breaks_blocksText_cons, breaks_function_unbroken,
      <- breaks_blocksText_cons]

/-- The comment before a step repeats its id as it is; nothing else in its blocks does. -/
theorem breaks_blocks_unbroken (step : Step) (scope : Scope) :
    breaks (blocksText (step.blocks scope).2) =
      breaks (blocksText (step.unbroken.blocks scope).2) + breaks step.id := by
  have hempty : step.unbroken.id = "" ↔ step.id = "" := unbroken_eq_empty_iff
  by_cases hid : step.id = ""
  · rw [blocks, blocks, if_pos hid, if_pos (hempty.mpr hid), hid]
    rfl
  · rw [blocks_of_id hid, blocks_of_id (hempty.not.mpr hid)]
    simp only [List.cons_append, List.nil_append, breaks_blocksText_append,
      breaks_blocksText_cons]
    have hcomment : breaks (Block.stepComment step.id).text =
        breaks (Block.stepComment step.unbroken.id).text + breaks step.id := by
      have hkept : breaks step.unbroken.id = 0 := breaks_eq_zero_iff.mpr (single_unbroken step.id)
      simp only [Block.text, line, breaks_append]
      omega
    have hnew : breaks (Block.newStep step.unbroken.objectName step.unbroken.id).text =
        breaks (Block.newStep step.objectName step.id).text := by
      simp only [Block.text, line, breaks_append, breaks_quoted, objectName_unbroken]
    rw [hcomment, hnew, breaks_textBlock_unbroken, breaks_setupBlocks_unbroken,
      tearDownBlocks_unbroken, objectName_unbroken]
    omega

theorem breaks_flatMap_blocks_unbroken (steps : List Step) :
    breaks (blocksText (steps.flatMap fun step => (step.blocks Scope.empty).2)) =
      breaks (blocksText ((steps.map unbroken).flatMap fun step =>
        (step.blocks Scope.empty).2)) + (steps.map fun step => breaks step.id).sum := by
  induction steps with
  | nil => rfl
  | cons step rest ih =>
      rw [List.flatMap_cons, breaks_blocksText_append, breaks_blocks_unbroken, ih, List.map_cons,
        List.flatMap_cons, breaks_blocksText_append, List.map_cons, List.sum_cons]
      omega

end Step

/-!
# Tutorials

All blocks are taken together and their line breaks added up.
-/

namespace Script

theorem Block.box_exists_final_break (cs : List Char) :
    exists front, box cs = front ++ ['\n'] := by
  have hend : "****/\n\n".toList = "****/\n".toList ++ ['\n'] := by decide
  unfold box
  rw [hend, ← List.append_assoc]
  exact ⟨_, rfl⟩

theorem Block.exists_final_break (block : Block) : exists text, block.text = text ++ "\n" := by
  have hline (level : Nat) (text : String) : exists front, line level text = front ++ "\n" :=
    ⟨_, rfl⟩
  have hafter {front back : String} (hback : exists text, back = text ++ "\n") :
      exists text, front ++ back = text ++ "\n" := by
    rcases hback with ⟨text, rfl⟩
    exact ⟨front ++ text, String.append_assoc.symm⟩
  cases block with
  | license content =>
      rcases box_exists_final_break content.toList with ⟨front, hfront⟩
      refine ⟨String.ofList front, ?_⟩
      show String.ofList (box content.toList) = String.ofList front ++ "\n"
      rw [hfront, String.ofList_append]
  | translations => exact ⟨"t = Kross.module(\"kdetranslation\");\n", by decide⟩
  | gap => exact ⟨"", rfl⟩
  | problem | stepComment | newStep | setText | addStep | setName | setDescription =>
      exact hline 0 _
  | function name parameter statements code => exact hafter (hline 0 _)
  | connect object signal callee => exact ⟨_, rfl⟩

theorem blocksText_exists_final_break {blocks : List Block} (h : blocks ≠ []) :
    exists text, blocksText blocks = text ++ "\n" := by
  rcases List.eq_nil_or_concat blocks with hnil | ⟨front, last, rfl⟩
  · exact absurd hnil h
  · rcases last.exists_final_break with ⟨text, hlast⟩
    refine ⟨blocksText front ++ text, ?_⟩
    simp [blocksText, hlast, String.append_assoc]

end Script

namespace Tutorial

open Text

def unbroken (tutorial : Tutorial) : Tutorial :=
  { tutorial with
    name := Text.unbroken tutorial.name
    description := Text.unbroken tutorial.description
    steps := tutorial.steps.map Step.unbroken }

theorem length_lines_toScript (tutorial : Tutorial) :
    (lines tutorial.toScript).length = breaks tutorial.toScript := by
  have hblocks : tutorial.headBlocks ++
      tutorial.steps.flatMap (fun step => (step.blocks Scope.empty).2) ≠ [] := by
    simp [headBlocks]
  rcases blocksText_exists_final_break hblocks with ⟨text, htext⟩
  rw [toScript_eq, htext, length_lines_of_final_break]

theorem breaks_informationBlocks_unbroken (tutorial : Tutorial) :
    breaks (blocksText tutorial.unbroken.informationBlocks) =
      breaks (blocksText tutorial.informationBlocks) := by
  have hname : tutorial.unbroken.name = "" ↔ tutorial.name = "" := unbroken_eq_empty_iff
  have hdescription : tutorial.unbroken.description = "" ↔ tutorial.description = "" :=
    unbroken_eq_empty_iff
  have hsetter (setter value other : String) : breaks (Block.setInformation setter value) =
      breaks (Block.setInformation setter other) := by
    simp only [Block.setInformation, line, breaks_append, breaks_quoted]
  simp only [informationBlocks, breaks_blocksText_cons, hname, hdescription]
  congr 1
  · split
    · rfl
    · exact hsetter _ _ _
  · congr 1
    split
    · rfl
    · exact hsetter _ _ _

theorem breaks_headBlocks_unbroken (tutorial : Tutorial) :
    breaks (blocksText tutorial.unbroken.headBlocks) = breaks (blocksText tutorial.headBlocks) := by
  have hlicense : tutorial.unbroken.license = tutorial.license := rfl
  have hsetup : tutorial.unbroken.setup = tutorial.setup := rfl
  have htearDown : tutorial.unbroken.tearDown = tutorial.tearDown := rfl
  simp only [headBlocks, breaks_blocksText_append, breaks_informationBlocks_unbroken, hlicense,
    hsetup, htearDown]

theorem length_lines_unbroken (tutorial : Tutorial) :
    (lines tutorial.toScript).length = (lines tutorial.unbroken.toScript).length +
      (tutorial.steps.map fun step => breaks step.id).sum := by
  have hsteps : tutorial.unbroken.steps = tutorial.steps.map Step.unbroken := rfl
  rw [length_lines_toScript, length_lines_toScript, toScript_eq, toScript_eq,
    breaks_blocksText_append, breaks_blocksText_append, breaks_headBlocks_unbroken, hsteps,
    Step.breaks_flatMap_blocks_unbroken, Nat.add_assoc]

/--
With blanks for the line breaks in all texts but the license, code and values of properties, a
script has one line less for every line break in the id of a step, and otherwise as many as before.
-/
theorem lines_toScript_unbroken (tutorial : Tutorial) :
    (lines tutorial.toScript).length = (lines tutorial.unbroken.toScript).length +
        (tutorial.steps.map fun step => breaks step.id).sum ∧
      ((lines tutorial.toScript).length = (lines tutorial.unbroken.toScript).length ↔
        forall step, step ∈ tutorial.steps -> Single step.id) := by
  have hcount := tutorial.length_lines_unbroken
  refine ⟨hcount, ?_⟩
  rw [hcount, Nat.add_eq_left, List.sum_eq_zero_iff_forall_eq_nat, List.forall_mem_map]
  exact forall₂_congr fun step hstep => breaks_eq_zero_iff

/-- An id of two lines breaks the comment before its step, though it is quoted elsewhere. -/
theorem step_id_adds_line :
    let tutorial : Tutorial :=
      { name := "t", description := "d", steps := [{ id := "a\nb", text := "x" }] }
    (lines tutorial.toScript).length ≠ (lines tutorial.unbroken.toScript).length := by
  intro tutorial
  have hbreak : (tutorial.steps.map fun step => breaks step.id).sum = 1 := by decide
  rw [tutorial.length_lines_unbroken, hbreak]
  exact Nat.succ_ne_self _

end Tutorial

end TutorialKit
