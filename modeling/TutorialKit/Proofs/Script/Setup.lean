import TutorialKit.Proofs.Script.Construction
import TutorialKit.Script.Export

/-!
# What a set-up function registers

The set-up function of a step, run from the beginning, gives the step one option or condition for
every reaction that is complete, in order.  It does so whenever it declares no variable twice.
-/

namespace TutorialKit

open Script

namespace Reaction

/-!
# Reactions that are complete

A reaction is complete if it is known what triggers it and what it leads to.
-/

/-- What can be watched of the condition. -/
def kept? (reaction : Reaction) : Option Condition :=
  reaction.condition.bind Condition.prune?

/-- Nothing is missing that the reaction cannot do without. -/
structure Complete (reaction : Reaction) : Prop where
  option : reaction.trigger = .optionSelected -> reaction.option ≠ ""
  condition : reaction.trigger = .conditionMet -> reaction.kept?.isSome
  nextStep : reaction.response = .nextStep -> reaction.nextStep ≠ ""

theorem problem?_eq_none_iff {reaction : Reaction} :
    reaction.problem? = none ↔
      (reaction.trigger = .conditionMet -> reaction.condition ≠ none) ∧
      (reaction.trigger = .optionSelected -> reaction.option ≠ "") ∧
      (reaction.response = .nextStep -> reaction.nextStep ≠ "") := by
  unfold problem?
  split_ifs <;> simp_all

theorem complete_iff {reaction : Reaction} :
    reaction.Complete ↔ reaction.problem? = none ∧
      (reaction.trigger = .conditionMet -> reaction.kept?.isSome) := by
  rw [problem?_eq_none_iff]
  constructor
  · rintro ⟨hoption, hcondition, hnext⟩
    refine ⟨⟨?_, hoption, hnext⟩, hcondition⟩
    intro htrigger hnone
    have hkept := hcondition htrigger
    rw [kept?, hnone] at hkept
    cases hkept
  · rintro ⟨⟨_, hoption, hnext⟩, hcondition⟩
    exact ⟨hoption, hcondition, hnext⟩

/-- A reaction is written as the problem that it has, or as its option or its condition. -/
theorem register_cases (step : String) (scope : Scope) (reaction : Reaction) :
    (exists problem, reaction.problem? = some problem ∧
      reaction.register step scope = ⟨scope, [.problem problem], []⟩) ∨
    (reaction.problem? = none ∧ reaction.trigger = .optionSelected ∧
      reaction.register step scope = reaction.registerOption step scope) ∨
    exists condition, reaction.problem? = none ∧ reaction.trigger = .conditionMet ∧
      reaction.condition = some condition ∧
      reaction.register step scope = reaction.registerCondition step scope condition := by
  cases hproblem : reaction.problem? with
  | some problem =>
      refine Or.inl ⟨problem, rfl, ?_⟩
      simp only [register, hproblem]
  | none =>
      cases htrigger : reaction.trigger with
      | optionSelected =>
          refine Or.inr (Or.inl ⟨rfl, rfl, ?_⟩)
          simp only [register, hproblem, htrigger]
      | conditionMet =>
          cases hcondition : reaction.condition with
          | none => exact absurd hcondition ((problem?_eq_none_iff.mp hproblem).1 htrigger)
          | some condition =>
              refine Or.inr (Or.inr ⟨condition, rfl, rfl, rfl, ?_⟩)
              simp only [register, hproblem, htrigger, hcondition]

end Reaction

namespace Script

/-!
# Registrations for reactions

Objects for later reactions do not touch those that have been registered.
-/

/-- The later state has new objects, and the given registrations after those made before. -/
structure Execution.Adds (registrations : List Registration) (state later : Execution) : Prop where
  objects : state.objects <+: later.objects
  registrations : later.registrations = state.registrations ++ registrations

theorem Execution.Adds.trans {registrations others : List Registration}
    {state between later : Execution} (hfirst : Adds registrations state between)
    (hsecond : Adds others between later) : Adds (registrations ++ others) state later := by
  refine ⟨hfirst.objects.trans hsecond.objects, ?_⟩
  rw [hsecond.registrations, hfirst.registrations, List.append_assoc]

/-- The object is what triggers the reaction: its option, or what is left of its condition. -/
def Watches (objects : List Object) (number : Nat) (reaction : Reaction) : Prop :=
  match reaction.trigger with
  | .optionSelected => objects[number]? = some (.option reaction.option)
  | .conditionMet => exists condition, reaction.kept? = some condition ∧
      Denotes objects number condition

/-- The target is the reaction's response; a handler holds the reaction's own code. -/
inductive Responds (reaction : Reaction) : Target -> List Handler -> Prop where
  | step : reaction.response = .nextStep -> Responds reaction (.step reaction.nextStep) []
  | handler {name : String} : reaction.response = .customCode ->
      Responds reaction (.handler name) [⟨name, reaction.code⟩]

/-- A complete reaction is registered once, any other reaction not at all. -/
inductive Settles (objects : List Object) (reaction : Reaction) :
    List Registration -> List Handler -> Prop where
  | incomplete : ¬ reaction.Complete -> Settles objects reaction [] []
  | complete {number : Nat} {target : Target} {handlers : List Handler} :
      reaction.Complete -> Watches objects number reaction ->
      Responds reaction target handlers ->
      Settles objects reaction [⟨number, target⟩] handlers

/-- The registrations and handlers for a list of reactions, in order. -/
inductive Registers (objects : List Object) :
    List Reaction -> List Registration -> List Handler -> Prop where
  | nil : Registers objects [] [] []
  | cons {reaction : Reaction} {reactions : List Reaction}
      {registrations others : List Registration} {handlers others' : List Handler} :
      Settles objects reaction registrations handlers ->
      Registers objects reactions others others' ->
      Registers objects (reaction :: reactions) (registrations ++ others) (handlers ++ others')

section

variable {objects later : List Object} {reaction : Reaction}

theorem Watches.of_isPrefix {number : Nat} (hgrown : objects <+: later)
    (h : Watches objects number reaction) : Watches later number reaction := by
  unfold Watches at h ⊢
  cases htrigger : reaction.trigger with
  | optionSelected =>
      rw [htrigger] at h
      exact getElem?_of_isPrefix hgrown h
  | conditionMet =>
      rw [htrigger] at h
      rcases h with ⟨condition, hkept, hdenotes⟩
      exact ⟨condition, hkept, hdenotes.of_isPrefix hgrown⟩

theorem Settles.of_isPrefix {registrations : List Registration} {handlers : List Handler}
    (hgrown : objects <+: later) (h : Settles objects reaction registrations handlers) :
    Settles later reaction registrations handlers := by
  cases h with
  | incomplete hincomplete => exact .incomplete hincomplete
  | complete hcomplete hwatches hresponds =>
      exact .complete hcomplete (hwatches.of_isPrefix hgrown) hresponds

end

end Script

namespace Reaction

open Script.Execution

theorem responds_target (reaction : Reaction) (name : String) :
    Responds reaction (reaction.target name) (reaction.handlers name) := by
  cases h : reaction.response with
  | nextStep =>
      simp only [target, handlers, h]
      exact .step h
  | customCode =>
      simp only [target, handlers, h]
      exact .handler h

section

variable {step : String} {scope : Scope} {reaction : Reaction}

theorem run_registerOption (hproblem : reaction.problem? = none)
    (htrigger : reaction.trigger = .optionSelected) (state : Execution) :
    exists later registrations,
      state.run (registerOption step scope reaction).statements = some later ∧
      Adds registrations state later ∧
      Settles later.objects reaction registrations
        (registerOption step scope reaction).handlers := by
  let object := scope.variableFor (Text.lowerCamelCase reaction.option ++ "Option")
  let name := step ++ Text.upperCamelCase reaction.option ++ "OptionSelected"
  let created := state.create object (.option reaction.option)
  have hobject : created.number? Object.isOption object = some state.objects.length :=
    number?_create_self rfl
  refine ⟨created.register state.objects.length (reaction.target name),
    [⟨state.objects.length, reaction.target name⟩], ?_,
    ⟨List.prefix_append _ _, rfl⟩, ?_⟩
  · show ((created.number? Object.isOption object).map _).bind _ = _
    rw [hobject]
    rfl
  · have hcomplete : reaction.Complete := by
      refine complete_iff.mpr ⟨hproblem, ?_⟩
      rw [htrigger]
      nofun
    refine .complete hcomplete ?_ (reaction.responds_target name)
    unfold Watches
    rw [htrigger]
    exact List.getElem?_concat_length

theorem run_registerCondition {condition : Condition} (hproblem : reaction.problem? = none)
    (htrigger : reaction.trigger = .conditionMet) (hcondition : reaction.condition = some condition)
    (state : Execution)
    (hdistinct :
      (declaredAll (registerCondition step scope reaction condition).statements).Nodup) :
    exists later registrations,
      state.run (registerCondition step scope reaction condition).statements = some later ∧
      Adds registrations state later ∧
      Settles later.objects reaction registrations
        (registerCondition step scope reaction condition).handlers := by
  have hbuilds := condition.builds_emit scope
  have hkept : reaction.kept? = condition.prune? := by
    rw [kept?, hcondition]
    rfl
  have hnodup : (declaredAll (condition.emit scope).statements).Nodup := by
    cases hobject : (condition.emit scope).object with
    | none => simpa only [registerCondition, hobject] using hdistinct
    | some object =>
        simpa [registerCondition, hobject, Statement.declared] using hdistinct
  rcases hbuilds state hnodup with ⟨later, hrun, hextends, hholds⟩
  rcases forall₂_toList hholds with ⟨hobject, hnone⟩ | ⟨object, kept, hobject, hsome, hheld⟩
  · simp only [registerCondition, hobject]
    refine ⟨later, [], hrun, ⟨hextends.objects, ?_⟩, .incomplete ?_⟩
    · rw [hextends.registrations, List.append_nil]
    · intro hcomplete
      have hwatched := hcomplete.condition htrigger
      rw [hkept, hnone] at hwatched
      cases hwatched
  · simp only [registerCondition, hobject]
    rcases hheld.number? with ⟨number, hnumber, hdenotes⟩
    let name := step ++ Text.upperCamelCase object ++ "ConditionMet"
    refine ⟨later.register number (reaction.target name), [⟨number, reaction.target name⟩], ?_,
      ⟨hextends.objects, ?_⟩, .complete ?_ ?_ (reaction.responds_target name)⟩
    · rw [run_append, hrun, Option.bind_some, run_singleton, perform, hnumber]
      rfl
    · rw [← hextends.registrations]
      rfl
    · refine complete_iff.mpr ⟨hproblem, fun _ => ?_⟩
      rw [hkept, hsome]
      rfl
    · unfold Watches
      rw [htrigger, hkept]
      exact ⟨kept, hsome, hdenotes⟩

theorem run_register (step : String) (scope : Scope) (reaction : Reaction) (state : Execution)
    (hdistinct : (declaredAll (reaction.register step scope).statements).Nodup) :
    exists later registrations,
      state.run (reaction.register step scope).statements = some later ∧
      Adds registrations state later ∧
      Settles later.objects reaction registrations (reaction.register step scope).handlers := by
  rcases register_cases step scope reaction with ⟨problem, hproblem, hregister⟩ |
    ⟨hproblem, htrigger, hregister⟩ | ⟨condition, hproblem, htrigger, hcondition, hregister⟩
  · rw [hregister]
    refine ⟨state, [], rfl, ⟨List.prefix_rfl, (List.append_nil _).symm⟩, .incomplete ?_⟩
    intro hcomplete
    have hnone := (complete_iff.mp hcomplete).1
    rw [hproblem] at hnone
    cases hnone
  · rw [hregister]
    exact run_registerOption hproblem htrigger state
  · rw [hregister] at hdistinct ⊢
    exact run_registerCondition hproblem htrigger hcondition state hdistinct

theorem declaredAll_gap (wanted : Bool) :
    declaredAll (if wanted then [.blank] else []) = [] := by
  cases wanted <;> rfl

theorem run_gap (state : Execution) (wanted : Bool) :
    state.run (if wanted then [.blank] else []) = some state := by
  cases wanted <;> rfl

/-- Reactions are registered one after the other; what stands for the first ones stays. -/
theorem run_registerAll (step : String) (closed : Bool) (scope : Scope)
    (reactions : List Reaction) (state : Execution)
    (hdistinct : (declaredAll (registerAll step closed scope reactions).statements).Nodup) :
    exists later registrations,
      state.run (registerAll step closed scope reactions).statements = some later ∧
      Adds registrations state later ∧
      Registers later.objects reactions registrations
        (registerAll step closed scope reactions).handlers := by
  induction reactions generalizing scope state with
  | nil => exact ⟨state, [], rfl, ⟨List.prefix_rfl, (List.append_nil _).symm⟩, .nil⟩
  | cons reaction rest ih =>
      simp only [registerAll, declaredAll_append, declaredAll_gap, List.append_nil] at hdistinct ⊢
      rcases List.nodup_append.mp hdistinct with ⟨hfirst, hrest, _⟩
      rcases run_register step scope reaction state hfirst with
        ⟨between, registrations, hrun, hadds, hsettles⟩
      rcases ih (reaction.register step scope).scope between hrest with
        ⟨later, others, hrun', hadds', hregisters⟩
      refine ⟨later, registrations ++ others, ?_, hadds.trans hadds',
        .cons (hsettles.of_isPrefix hadds'.objects) hregisters⟩
      rw [run_append, run_append, hrun, Option.bind_some, run_gap, Option.bind_some]
      exact hrun'

end

theorem name_of_mem_handlers {reaction : Reaction} {name : String} {handler : Handler}
    (h : handler ∈ reaction.handlers name) : handler.name = name := by
  unfold handlers at h
  cases hresponse : reaction.response with
  | nextStep => simp [hresponse] at h
  | customCode =>
      simp only [hresponse, List.mem_singleton] at h
      rw [h]

theorem length_handler_register {step : String} {scope : Scope} {reaction : Reaction}
    {handler : Handler} (h : handler ∈ (reaction.register step scope).handlers) :
    (step ++ "Setup").length < handler.name.length := by
  have hends : "Setup".length < "OptionSelected".length ∧
      "Setup".length < "ConditionMet".length := by decide
  unfold register at h
  split at h
  · cases h
  · split at h
    · rw [name_of_mem_handlers h]
      simp only [String.length_append]
      omega
    · rename_i condition _ _
      cases hobject : (condition.emit scope).object with
      | none => simp [registerCondition, hobject] at h
      | some object =>
          simp only [registerCondition, hobject] at h
          rw [name_of_mem_handlers h]
          simp only [String.length_append]
          omega
    · cases h

theorem length_handler_registerAll {step : String} {closed : Bool} {scope : Scope}
    {reactions : List Reaction} {handler : Handler}
    (h : handler ∈ (registerAll step closed scope reactions).handlers) :
    (step ++ "Setup").length < handler.name.length := by
  induction reactions generalizing scope with
  | nil => cases h
  | cons reaction rest ih =>
      rcases List.mem_append.mp h with h | h
      · exact length_handler_register h
      · exact ih h

end Reaction

/-!
# The set-up function of a step

The statements of a function are found by its name, and the handlers are the functions without
parameters.
-/

namespace Script
namespace Block

def statementsOf (name : String) : Block -> List Statement
  | function other _ statements _ => if other = name then statements else []
  | _ => []

def handler? : Block -> Option Handler
  | function name parameter _ code => if parameter = "" then some ⟨name, code⟩ else none
  | _ => none

end Block

namespace Handler

theorem statementsOf_blocks {handler : Handler} {name : String} (h : handler.name ≠ name) :
    handler.blocks.flatMap (Block.statementsOf name) = [] := by
  simp [blocks, Block.statementsOf, h]

end Handler
end Script

namespace Step

/-- The statements of the set-up function that is exported with the step. -/
def setupStatements (scope : Scope) (step : Step) : List Statement :=
  (step.blocks scope).2.flatMap (Block.statementsOf (step.objectName ++ "Setup"))

def handlers (scope : Scope) (step : Step) : List Handler :=
  (step.blocks scope).2.filterMap Block.handler?

def registered (scope : Scope) (step : Step) : Registered :=
  Reaction.registerAll step.objectName (step.setup != "") scope step.reactions

section

variable {scope : Scope} {step : Step}

theorem registered_of_idle (h : (step.setup = "" && step.reactions.isEmpty) = true) :
    step.registered scope = ⟨scope, [], []⟩ := by
  rw [Bool.and_eq_true] at h
  rw [registered, List.isEmpty_iff.mp h.2]
  rfl

theorem setupBlocks_of_not_idle (h : ¬ (step.setup = "" && step.reactions.isEmpty) = true) :
    (step.setupBlocks scope).2 =
      .function (step.objectName ++ "Setup") "step" (step.registered scope).statements
          step.setup ::
        .connect step.objectName "setup" (step.objectName ++ "Setup") ::
        (step.registered scope).handlers.flatMap Handler.blocks := by
  rw [setupBlocks, if_neg h]
  rfl

theorem blocks_of_id (hid : step.id ≠ "") :
    (step.blocks scope).2 =
      [.stepComment step.id, .newStep step.objectName step.id, step.textBlock, .gap] ++
        (step.setupBlocks scope).2 ++ step.tearDownBlocks ++
        [Block.addStep step.objectName, .gap] := by
  rw [blocks, if_neg hid]

theorem setupStatements_eq (hid : step.id ≠ "") :
    step.setupStatements scope = (step.registered scope).statements := by
  have hhandlers : (step.registered scope).handlers.flatMap (fun handler =>
      handler.blocks.flatMap (Block.statementsOf (step.objectName ++ "Setup"))) = [] := by
    rw [List.flatMap_eq_nil_iff]
    intro handler hmem
    refine Handler.statementsOf_blocks fun hname => ?_
    have hlength := Reaction.length_handler_registerAll hmem
    rw [hname] at hlength
    exact Nat.lt_irrefl _ hlength
  have hsetup : (step.setupBlocks scope).2.flatMap
      (Block.statementsOf (step.objectName ++ "Setup")) = (step.registered scope).statements := by
    by_cases hidle : (step.setup = "" && step.reactions.isEmpty) = true
    · rw [registered_of_idle hidle, setupBlocks, if_pos hidle]
      rfl
    · rw [setupBlocks_of_not_idle hidle, List.flatMap_cons, List.flatMap_cons,
        List.flatMap_assoc, hhandlers]
      simp [Block.statementsOf]
  have htearDown : step.tearDownBlocks.flatMap
      (Block.statementsOf (step.objectName ++ "Setup")) = [] := by
    unfold tearDownBlocks
    split
    · rfl
    · simp [Block.statementsOf]
  have hbegin : List.flatMap (Block.statementsOf (step.objectName ++ "Setup"))
      [.stepComment step.id, .newStep step.objectName step.id, step.textBlock, .gap] = [] := by
    unfold textBlock
    split
    · rfl
    · rfl
  rw [setupStatements, blocks_of_id hid]
  simp only [List.flatMap_append, hbegin, hsetup, htearDown, List.nil_append, List.append_nil]
  exact List.append_nil _

theorem handlers_eq (hid : step.id ≠ "") :
    step.handlers scope = (step.registered scope).handlers := by
  have hsetup : (step.setupBlocks scope).2.filterMap Block.handler? =
      (step.registered scope).handlers := by
    by_cases hidle : (step.setup = "" && step.reactions.isEmpty) = true
    · rw [registered_of_idle hidle, setupBlocks, if_pos hidle]
      rfl
    · rw [setupBlocks_of_not_idle hidle]
      change ((step.registered scope).handlers.flatMap Handler.blocks).filterMap _ = _
      rw [List.filterMap_flatMap]
      exact List.flatMap_singleton' _
  have htearDown : step.tearDownBlocks.filterMap Block.handler? = [] := by
    unfold tearDownBlocks
    split
    · rfl
    · rfl
  have hbegin : List.filterMap Block.handler?
      [.stepComment step.id, .newStep step.objectName step.id, step.textBlock, .gap] = [] := by
    unfold textBlock
    split
    · rfl
    · rfl
  rw [handlers, blocks_of_id hid]
  simp only [List.filterMap_append, hbegin, hsetup, htearDown, List.nil_append, List.append_nil]
  exact List.append_nil _

theorem blocksAll_empty (steps : List Step) :
    blocksAll Scope.empty steps =
      (Scope.empty, steps.flatMap fun step => (step.blocks Scope.empty).2) := by
  have hscope : forall step : Step, (step.blocks Scope.empty).1 = Scope.empty := by
    intro step
    unfold blocks setupBlocks
    split
    · rfl
    · split <;> rfl
  induction steps with
  | nil => rfl
  | cons first rest ih => rw [blocksAll, hscope, ih, List.flatMap_cons]

/--
A set-up function that declares no variable twice declares every variable before it uses it, and
gives the step what each of the complete reactions waits for, together with the response.
-/
theorem setup_registers_reactions (hid : step.id ≠ "")
    (hdistinct : (declaredAll (step.setupStatements scope)).Nodup) :
    exists later, ({} : Execution).run (step.setupStatements scope) = some later ∧
      BoundBeforeUse (step.setupStatements scope) ∧
      Registers later.objects step.reactions later.registrations (step.handlers scope) := by
  rw [setupStatements_eq hid] at hdistinct ⊢
  rw [handlers_eq hid]
  rcases Reaction.run_registerAll step.objectName (step.setup != "") scope step.reactions {}
    hdistinct with ⟨later, registrations, hrun, hadds, hregisters⟩
  have hregistrations : later.registrations = registrations := hadds.registrations
  refine ⟨later, hrun, Execution.boundBeforeUse_of_run hrun, ?_⟩
  rw [hregistrations]
  exact hregisters

end

def halfFinished : Step :=
  { id := "start"
    reactions :=
      [{ trigger := .optionSelected, option := "Go on", response := .nextStep, nextStep := "end" },
        { trigger := .conditionMet, response := .customCode, code := "stop();"
          condition := some (.composed .any
            [.leaf (.window ""), .negation (some (.leaf (.signal "" "fired"))),
              .leaf (.signal "emitter" "fired(int)")]) },
        { trigger := .conditionMet, condition := some (.negation none), response := .nextStep,
          nextStep := "end" }] }

theorem setup_registers_half_finished :
    halfFinished.id ≠ "" ∧
      (declaredAll (halfFinished.setupStatements Scope.empty)).Nodup ∧
      exists later,
        ({} : Execution).run (halfFinished.setupStatements Scope.empty) = some later ∧
        BoundBeforeUse (halfFinished.setupStatements Scope.empty) ∧
        Registers later.objects halfFinished.reactions later.registrations
          (halfFinished.handlers Scope.empty) := by
  have hid : halfFinished.id ≠ "" := by decide
  have hdistinct : (declaredAll (halfFinished.setupStatements Scope.empty)).Nodup := by decide
  exact ⟨hid, hdistinct, setup_registers_reactions hid hdistinct⟩

end Step
end TutorialKit
