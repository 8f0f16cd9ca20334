import TutorialKit.Proofs.Script.Functions
import TutorialKit.Proofs.Script.IdentifierStart
import TutorialKit.Proofs.Script.Setup

/-!
# Names as identifiers

Names of conditions and of functions begin with a word of the exporter or with the name of a step;
the names of steps and options begin with what their texts begin with.
-/

namespace TutorialKit

open Script

namespace Script

/-!
# Names in blocks

All names of a script are found in its blocks, in the order in which they are written.
-/

namespace Statement

/-- The objects that the statement assigns or uses. -/
def objects : Statement -> List String
  | blank => []
  | problem _ => []
  | newOption object _ => [object]
  | newCondition object _ => [object]
  | setEvent object _ _ => [object]
  | setProperty object _ _ _ => [object]
  | setSignal object _ _ => [object]
  | setWindow object _ => [object]
  | setStep object => [object]
  | addChild object child => [object, child]
  | setNegated object child => [object, child]
  | addOption object _ => [object]
  | addCondition object _ => [object]

def callee? : Statement -> Option String
  | addOption _ target => target.callee?
  | addCondition _ target => target.callee?
  | _ => none

def names (statement : Statement) : List String :=
  statement.objects ++ statement.callee?.toList

end Statement

/-- The variables and functions that a block names. -/
def Block.names : Block -> List String
  | newStep object _ => [object]
  | setText object _ _ => [object]
  | addStep object => [object]
  | function name _ statements _ => name :: statements.flatMap Statement.names
  | connect object _ callee => [object, callee]
  | _ => []

/-- All names begin as identifiers do. -/
def AllBegin (names : List String) : Prop :=
  forall name, name ∈ names -> BeginsIdentifier name

theorem allBegin_nil : AllBegin [] :=
  List.forall_mem_nil _

theorem allBegin_cons {name : String} {names : List String} :
    AllBegin (name :: names) ↔ BeginsIdentifier name ∧ AllBegin names :=
  List.forall_mem_cons

theorem allBegin_append {names others : List String} :
    AllBegin (names ++ others) ↔ AllBegin names ∧ AllBegin others :=
  List.forall_mem_append

theorem allBegin_flatMap {α : Type} {f : α -> List String} {l : List α} :
    AllBegin (l.flatMap f) ↔ forall a, a ∈ l -> AllBegin (f a) :=
  List.forall_mem_flatMap

theorem allBegin_singleton {name : String} : AllBegin [name] ↔ BeginsIdentifier name :=
  List.forall_mem_singleton

/-!
# Variables

A variable begins as the name does that it is asked for.
-/

theorem beginsIdentifier_variableFor_iff {name : String} (hname : name ≠ "") (scope : Scope) :
    BeginsIdentifier (scope.variableFor name) ↔ BeginsIdentifier name := by
  unfold Scope.variableFor Scope.numbered
  split
  · exact Iff.rfl
  · exact beginsIdentifier_append_iff hname _

theorem BeginsIdentifier.variableFor {name : String} (h : BeginsIdentifier name)
    (scope : Scope) : BeginsIdentifier (scope.variableFor name) := by
  refine (beginsIdentifier_variableFor_iff ?_ scope).mpr h
  rintro rfl
  revert h
  decide

end Script

/-!
# Conditions

The names of conditions begin with words of the exporter, whatever the condition holds.
-/

theorem Leaf.beginsIdentifier_objectName (leaf : Leaf) : BeginsIdentifier leaf.objectName := by
  have hwait : BeginsIdentifier "waitFor" := by decide
  cases leaf with
  | event receiver name => exact ((hwait.append _).append _).append _
  | property object name value => exact ((hwait.append _).append _).append _
  | signal emitter name => exact ((hwait.append _).append _).append _
  | window name => exact (hwait.append _).append _
  | stepActivation => exact hwait.append "StepActivation"

theorem Leaf.names_assignment (leaf : Leaf) (object : String) :
    (leaf.assignment object).names = [object] := by
  cases leaf <;> rfl

namespace Condition

/-- All names in what is written for a condition begin as they should. -/
def Begins (emitted : Emitted) : Prop :=
  AllBegin (emitted.statements.flatMap Statement.names) ∧ AllBegin emitted.object.toList

theorem begins_emitLeaf (scope : Scope) (leaf : Leaf) : Begins (leaf.emit scope) := by
  unfold Leaf.emit
  cases leaf.problem? with
  | some problem => exact ⟨allBegin_nil, allBegin_nil⟩
  | none =>
      have hobject := leaf.beginsIdentifier_objectName.variableFor scope
      constructor
      · simp only [List.flatMap_cons, List.flatMap_nil, Leaf.names_assignment]
        exact allBegin_cons.mpr ⟨hobject, allBegin_singleton.mpr hobject⟩
      · exact allBegin_singleton.mpr hobject

theorem begins_emitAll {conditions : List Condition}
    (h : forall condition, condition ∈ conditions -> forall scope, Begins (condition.emit scope))
    (scope : Scope) :
    AllBegin ((emitAll scope conditions).statements.flatMap Statement.names) ∧
      AllBegin (emitAll scope conditions).objects := by
  induction conditions generalizing scope with
  | nil => exact ⟨allBegin_nil, allBegin_nil⟩
  | cons condition rest ih =>
      rw [List.forall_mem_cons] at h
      have hlater := ih h.2 (condition.emit scope).scope
      simp only [emitAll, List.flatMap_append, List.flatMap_cons]
      exact ⟨allBegin_append.mpr ⟨(h.1 scope).1, hlater.1⟩,
        allBegin_append.mpr ⟨(h.1 scope).2, hlater.2⟩⟩

theorem begins_emit (condition : Condition) (scope : Scope) : Begins (condition.emit scope) := by
  induction condition generalizing scope with
  | leaf l => exact begins_emitLeaf scope l
  | composed composition children ih =>
      have hchildren := begins_emitAll ih scope
      have hobject : BeginsIdentifier ((emitAll scope children).scope.variableFor
          ("waitFor" ++ composition.literal)) :=
        (BeginsIdentifier.append (by decide) _).variableFor _
      rw [emit]
      refine ⟨?_, allBegin_singleton.mpr hobject⟩
      rw [List.flatMap_append, List.flatMap_cons, List.flatMap_map]
      refine allBegin_append.mpr ⟨hchildren.1, allBegin_cons.mpr
        ⟨hobject, allBegin_flatMap.mpr fun child hchild => ?_⟩⟩
      exact allBegin_cons.mpr ⟨hobject, allBegin_singleton.mpr (hchildren.2 child hchild)⟩
  | unset => exact ⟨allBegin_nil, allBegin_nil⟩
  | negation child ih =>
      have hchild := ih (scope.request "waitForNot")
      have hobject : BeginsIdentifier (scope.variableFor "waitForNot") :=
        BeginsIdentifier.variableFor (by decide) scope
      rw [emit]
      refine ⟨?_, allBegin_singleton.mpr hobject⟩
      rw [List.flatMap_append, List.flatMap_cons, List.flatMap_cons, List.flatMap_map]
      refine allBegin_append.mpr ⟨hchild.1, allBegin_cons.mpr
        ⟨hobject, allBegin_flatMap.mpr fun negated hnegated => ?_⟩⟩
      exact allBegin_cons.mpr ⟨hobject, allBegin_singleton.mpr (hchild.2 negated hnegated)⟩

end Condition

/-!
# Reactions

Options are named after their texts.
-/

namespace Reaction

def LeadsName (reaction : Reaction) : Prop :=
  reaction.problem? = none -> reaction.trigger = .optionSelected ->
    Script.LeadsName reaction.option

variable {step : String}

theorem allBegin_target (reaction : Reaction) {handler : String}
    (h : BeginsIdentifier handler) : AllBegin (reaction.target handler).callee?.toList := by
  unfold target
  cases reaction.response with
  | nextStep => exact allBegin_nil
  | customCode => exact allBegin_singleton.mpr h

theorem allBegin_registerOption_iff (hstep : BeginsIdentifier step) (scope : Scope)
    (reaction : Reaction) :
    AllBegin ((reaction.registerOption step scope).statements.flatMap Statement.names) ↔
      Script.LeadsName reaction.option := by
  have hending : BeginsIdentifier "Option" := by decide
  have htarget := allBegin_target reaction
    ((hstep.append (Text.upperCamelCase reaction.option)).append "OptionSelected")
  have hobject : BeginsIdentifier (scope.variableFor
      (Text.lowerCamelCase reaction.option ++ "Option")) ↔ Script.LeadsName reaction.option := by
    rw [beginsIdentifier_variableFor_iff, beginsIdentifier_lowerCamelCase_iff _ hending]
    exact fun hname => absurd (String.append_eq_empty_iff.mp hname).2 (by decide)
  rw [← hobject]
  constructor
  · intro h
    exact (allBegin_cons.mp h).1
  · intro h
    exact allBegin_cons.mpr ⟨h, allBegin_cons.mpr ⟨h, allBegin_append.mpr ⟨htarget, allBegin_nil⟩⟩⟩

theorem allBegin_registerCondition (hstep : BeginsIdentifier step) (scope : Scope)
    (reaction : Reaction) (condition : Condition) :
    AllBegin ((reaction.registerCondition step scope condition).statements.flatMap
      Statement.names) := by
  have hemit := condition.begins_emit scope
  unfold registerCondition
  cases hobject : (condition.emit scope).object with
  | none =>
      simp only [hobject]
      exact hemit.1
  | some object =>
      have htarget := allBegin_target reaction
        ((hstep.append (Text.upperCamelCase object)).append "ConditionMet")
      have hnames := hemit.2
      rw [hobject] at hnames
      simp only [hobject, List.flatMap_append, List.flatMap_cons, List.flatMap_nil]
      exact allBegin_append.mpr ⟨hemit.1, allBegin_cons.mpr
        ⟨allBegin_singleton.mp hnames, allBegin_append.mpr ⟨htarget, allBegin_nil⟩⟩⟩

theorem allBegin_register_iff (hstep : BeginsIdentifier step) (scope : Scope)
    (reaction : Reaction) :
    AllBegin ((reaction.register step scope).statements.flatMap Statement.names) ↔
      reaction.LeadsName := by
  unfold LeadsName
  rcases register_cases step scope reaction with ⟨problem, hproblem, hregister⟩ |
    ⟨hproblem, htrigger, hregister⟩ | ⟨condition, hproblem, htrigger, hcondition, hregister⟩
  · rw [hregister, hproblem]
    exact iff_of_true allBegin_nil nofun
  · rw [hregister, allBegin_registerOption_iff hstep]
    simp [hproblem, htrigger]
  · rw [hregister, htrigger]
    exact iff_of_true (allBegin_registerCondition hstep scope reaction condition) nofun

theorem allBegin_registerAll_iff (hstep : BeginsIdentifier step) (closed : Bool) (scope : Scope)
    (reactions : List Reaction) :
    AllBegin ((registerAll step closed scope reactions).statements.flatMap Statement.names) ↔
      forall reaction, reaction ∈ reactions -> reaction.LeadsName := by
  induction reactions generalizing scope with
  | nil => exact iff_of_true allBegin_nil (List.forall_mem_nil _)
  | cons first rest ih =>
      have hblank (wanted : Bool) :
          (if wanted then [Statement.blank] else []).flatMap Statement.names = [] := by
        cases wanted <;> rfl
      rw [registerAll, List.forall_mem_cons]
      simp only [List.flatMap_append, hblank, List.append_nil]
      rw [allBegin_append, allBegin_register_iff hstep, ih]

theorem begins_handler_register {handler : Handler} {scope : Scope} {reaction : Reaction}
    (hstep : BeginsIdentifier step) (h : handler ∈ (reaction.register step scope).handlers) :
    BeginsIdentifier handler.name := by
  rcases register_cases step scope reaction with ⟨problem, hproblem, hregister⟩ |
    ⟨hproblem, htrigger, hregister⟩ | ⟨condition, hproblem, htrigger, hcondition, hregister⟩
  · rw [hregister] at h
    cases h
  · rw [hregister] at h
    rw [name_of_mem_handlers h]
    exact (hstep.append _).append _
  · rw [hregister, registerCondition] at h
    split at h
    · cases h
    · rw [name_of_mem_handlers h]
      exact (hstep.append _).append _

theorem begins_handler_registerAll {handler : Handler} {closed : Bool} {scope : Scope}
    {reactions : List Reaction} (hstep : BeginsIdentifier step)
    (h : handler ∈ (registerAll step closed scope reactions).handlers) :
    BeginsIdentifier handler.name := by
  induction reactions generalizing scope with
  | nil => cases h
  | cons first rest ih =>
      rcases List.mem_append.mp h with h | h
      · exact begins_handler_register hstep h
      · exact ih h

end Reaction

/-!
# Steps

Everything else of a step is named after its id.
-/

namespace Step

/-- The texts that begin the names of the step may do so, if the step is written at all. -/
def LeadsNames (step : Step) : Prop :=
  step.id ≠ "" -> LeadsName step.id ∧
    forall reaction, reaction ∈ step.reactions -> reaction.LeadsName

variable {step : Step}

theorem beginsIdentifier_objectName_iff :
    BeginsIdentifier step.objectName ↔ LeadsName step.id :=
  beginsIdentifier_lowerCamelCase_iff step.id (by decide)

theorem allBegin_textBlock (h : BeginsIdentifier step.objectName) :
    AllBegin step.textBlock.names := by
  unfold textBlock
  split
  · exact allBegin_nil
  · exact allBegin_singleton.mpr h

theorem allBegin_tearDownBlocks (h : BeginsIdentifier step.objectName) :
    AllBegin (step.tearDownBlocks.flatMap Block.names) := by
  unfold tearDownBlocks
  split
  · exact allBegin_nil
  · have hfunction := h.append "TearDown"
    exact allBegin_cons.mpr ⟨hfunction, allBegin_cons.mpr ⟨h, allBegin_singleton.mpr hfunction⟩⟩

theorem allBegin_handler {handler : Handler} (h : BeginsIdentifier handler.name) :
    AllBegin (handler.blocks.flatMap Block.names) := by
  unfold Handler.blocks
  split
  · exact allBegin_singleton.mpr h
  · exact allBegin_singleton.mpr h

theorem allBegin_setupBlocks_iff (h : BeginsIdentifier step.objectName) (scope : Scope) :
    AllBegin ((step.setupBlocks scope).2.flatMap Block.names) ↔
      forall reaction, reaction ∈ step.reactions -> reaction.LeadsName := by
  by_cases hidle : (step.setup = "" && step.reactions.isEmpty) = true
  · have hreactions := List.isEmpty_iff.mp (Bool.and_eq_true _ _ ▸ hidle).2
    rw [setupBlocks, if_pos hidle, hreactions]
    exact iff_of_true allBegin_nil (List.forall_mem_nil _)
  · have hfunction := h.append "Setup"
    have hconnect : AllBegin
        (Block.connect step.objectName "setup" (step.objectName ++ "Setup")).names :=
      allBegin_cons.mpr ⟨h, allBegin_singleton.mpr hfunction⟩
    have hhandlers : AllBegin (((step.registered scope).handlers.flatMap Handler.blocks).flatMap
        Block.names) := by
      rw [List.flatMap_assoc]
      exact allBegin_flatMap.mpr fun handler hhandler =>
        allBegin_handler (Reaction.begins_handler_registerAll h hhandler)
    rw [setupBlocks_of_not_idle hidle, List.flatMap_cons, List.flatMap_cons, allBegin_append,
      allBegin_append, and_iff_left ⟨hconnect, hhandlers⟩, Block.names, allBegin_cons,
      and_iff_right hfunction, registered, Reaction.allBegin_registerAll_iff h]

theorem allBegin_blocks_iff (scope : Scope) (step : Step) :
    AllBegin ((step.blocks scope).2.flatMap Block.names) ↔ step.LeadsNames := by
  unfold LeadsNames
  by_cases hid : step.id = ""
  · rw [blocks, if_pos hid]
    exact iff_of_true allBegin_nil fun hne => absurd hid hne
  · rw [blocks_of_id hid, ← beginsIdentifier_objectName_iff]
    simp only [List.flatMap_append, allBegin_append]
    constructor
    · rintro ⟨⟨⟨hbegin, hsetup⟩, -⟩, -⟩ -
      have hobject : BeginsIdentifier step.objectName := (allBegin_cons.mp hbegin).1
      exact ⟨hobject, (allBegin_setupBlocks_iff hobject scope).mp hsetup⟩
    · intro h
      rcases h hid with ⟨hobject, hreactions⟩
      have htext := allBegin_textBlock hobject
      have hbegin : AllBegin (step.objectName :: (step.textBlock.names ++ [])) :=
        allBegin_cons.mpr ⟨hobject, allBegin_append.mpr ⟨htext, allBegin_nil⟩⟩
      exact ⟨⟨⟨hbegin, (allBegin_setupBlocks_iff hobject scope).mpr hreactions⟩,
        allBegin_tearDownBlocks hobject⟩, allBegin_singleton.mpr hobject⟩

end Step

/-!
# Tutorials

A tutorial adds no names but those of its own two functions.
-/

namespace Tutorial

theorem allBegin_functionBlocks {name signal code : String} (h : BeginsIdentifier name) :
    AllBegin ((functionBlocks name signal code).flatMap Block.names) := by
  have htutorial : BeginsIdentifier "tutorial" := by decide
  unfold functionBlocks
  split
  · exact allBegin_nil
  · exact allBegin_cons.mpr ⟨h, allBegin_cons.mpr ⟨htutorial, allBegin_singleton.mpr h⟩⟩

theorem allBegin_headBlocks (tutorial : Tutorial) :
    AllBegin (tutorial.headBlocks.flatMap Block.names) := by
  have hopening : AllBegin (((if tutorial.license = "" then [] else
      [Block.license tutorial.license]) ++ [Block.translations] ++
        tutorial.informationBlocks).flatMap Block.names) := by
    unfold informationBlocks
    split <;> split <;> split <;> exact allBegin_nil
  rw [headBlocks, List.flatMap_append, List.flatMap_append]
  exact allBegin_append.mpr ⟨allBegin_append.mpr ⟨hopening,
    allBegin_functionBlocks (by decide)⟩, allBegin_functionBlocks (by decide)⟩

/-- All variables and functions of a script begin as identifiers do just if the texts do so that
begin their names: the ids of steps, and the options of reactions that are written. -/
theorem names_begin_identifiers_iff (tutorial : Tutorial) :
    (forall block, block ∈ tutorial.scriptBlocks -> forall name, name ∈ block.names ->
        BeginsIdentifier name) ↔
      forall step, step ∈ tutorial.steps -> step.LeadsNames := by
  have hblocks : AllBegin (tutorial.scriptBlocks.flatMap Block.names) ↔
      forall step, step ∈ tutorial.steps -> step.LeadsNames := by
    rw [scriptBlocks, Step.blocksAll_empty, List.flatMap_append, allBegin_append,
      and_iff_right tutorial.allBegin_headBlocks, List.flatMap_assoc, allBegin_flatMap]
    simp only [Step.allBegin_blocks_iff]
  rw [← hblocks, allBegin_flatMap]
  rfl

def numberedStep : Tutorial where
  name := "t"
  description := "d"
  steps := [{ id := "1", text := "x" }]

theorem numbered_step_begins_with_digit :
    ¬ forall block, block ∈ numberedStep.scriptBlocks -> forall name, name ∈ block.names ->
      BeginsIdentifier name := by
  intro h
  have hname : "1Step" ∈ (Block.newStep "1Step" "1").names := List.mem_singleton_self _
  have hblock : Block.newStep "1Step" "1" ∈ numberedStep.scriptBlocks := by decide
  exact absurd (h _ hblock _ hname) (by decide)

end Tutorial
end TutorialKit
