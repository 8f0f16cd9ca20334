import Mathlib.Data.List.Pairwise
import TutorialKit.Proofs.Script.Variables

/-!
# Functions of a script

All functions of a script have names of one kind, which are put together from identifiers.  Each
function is declared once and called by the one thing that it was written for, and two functions
have one name exactly where their identifiers read the same: `functions_distinct_iff`.
-/

namespace TutorialKit

open Script

namespace Script

/-!
# What functions are for

A name begins with an identifier and ends in a word for the occasion.
-/

inductive Occasion where
  | setup
  | tearDown
  | optionSelected
  | conditionMet
  deriving DecidableEq

namespace Occasion

def ending : Occasion -> String
  | setup => "Setup"
  | tearDown => "TearDown"
  | optionSelected => "OptionSelected"
  | conditionMet => "ConditionMet"

end Occasion

/--
What a function is for.  A step is given by its identifier; the detail is the identifier of the
option or the condition that a handler waits for, and is empty for other functions.
-/
inductive Role where
  | ofTutorial (occasion : Occasion)
  | ofStep (occasion : Occasion) (step detail : String)
  deriving DecidableEq

namespace Role

def name : Role -> String
  | ofTutorial occasion => "tutorial" ++ occasion.ending
  | ofStep occasion step detail => step ++ "Step" ++ detail ++ occasion.ending

/--
The roles read the same: they are the same, or the identifier of one step goes on with `Step` and
with what the detail of the other role begins with.
-/
inductive Meets : Role -> Role -> Prop where
  | same (role : Role) : Meets role role
  | longer (occasion : Occasion) (step middle detail : String) :
      Meets (ofStep occasion step (middle ++ "Step" ++ detail))
        (ofStep occasion (step ++ "Step" ++ middle) detail)
  | shorter (occasion : Occasion) (step middle detail : String) :
      Meets (ofStep occasion (step ++ "Step" ++ middle) detail)
        (ofStep occasion step (middle ++ "Step" ++ detail))

/-!
# Roles with the same name

Endings tell the occasions apart.  Without them one name may still be cut into a step and a detail
in two ways.
-/

theorem ending_inj {first second : String} {occasion other : Occasion}
    (h : first ++ occasion.ending = second ++ other.ending) :
    occasion = other ∧ first = second := by
  have hlast := congrArg (fun name => name.toList.getLast?) h
  simp only [String.toList_append, List.getLast?_append] at hlast
  have hoccasion : occasion = other := by
    cases occasion <;> cases other <;> simp [Occasion.ending] at hlast ⊢
  subst hoccasion
  exact ⟨rfl, String.append_left_inj _ |>.mp h⟩

theorem tutorial_ne (step detail : String) : "tutorial" ≠ step ++ "Step" ++ detail := by
  intro h
  have hmem : 'S' ∈ "tutorial".toList := by
    rw [h]
    simp
  exact absurd hmem (by decide)

theorem step_overlap {front detail rest : List Char}
    (h : "Step".toList ++ detail = front ++ ("Step".toList ++ rest)) :
    front = [] ∧ detail = rest ∨
      exists middle, front = "Step".toList ++ middle ∧
        detail = middle ++ ("Step".toList ++ rest) := by
  change 'S' :: 't' :: 'e' :: 'p' :: detail = front ++ ('S' :: 't' :: 'e' :: 'p' :: rest) at h
  rcases front with _ | ⟨_, _ | ⟨_, _ | ⟨_, _ | ⟨_, middle⟩⟩⟩⟩
  · exact Or.inl ⟨rfl, by simpa using h⟩
  · simp at h
  · simp at h
  · simp at h
  · simp only [List.cons_append, List.cons.injEq] at h
    rcases h with ⟨rfl, rfl, rfl, rfl, rfl⟩
    exact Or.inr ⟨middle, rfl, rfl⟩

theorem meets_of_longer {occasion : Occasion} {step detail other rest : String}
    {front : List Char} (hother : other.toList = step.toList ++ front)
    (h : "Step".toList ++ detail.toList = front ++ ("Step".toList ++ rest.toList)) :
    (ofStep occasion step detail).Meets (ofStep occasion other rest) := by
  rcases step_overlap h with ⟨rfl, hdetail⟩ | ⟨middle, rfl, hdetail⟩
  · rw [List.append_nil, String.toList_inj] at hother
    rw [hother, String.toList_inj.mp hdetail]
    exact .same _
  · have hother' : other = step ++ "Step" ++ String.ofList middle := by
      rw [← String.toList_inj, hother]
      simp
    have hdetail' : detail = String.ofList middle ++ "Step" ++ rest := by
      rw [← String.toList_inj, hdetail]
      simp
    rw [hother', hdetail']
    exact .longer ..

theorem Meets.symm {role other : Role} (h : role.Meets other) : other.Meets role := by
  cases h with
  | same => exact .same _
  | longer occasion step middle detail => exact .shorter ..
  | shorter occasion step middle detail => exact .longer ..

theorem name_of_meets {role other : Role} (h : role.Meets other) : role.name = other.name := by
  cases h with
  | same => rfl
  | longer occasion step middle detail => simp only [name, String.append_assoc]
  | shorter occasion step middle detail => simp only [name, String.append_assoc]

/-- Roles have the same name exactly if they read the same. -/
theorem name_eq_iff_meets {role other : Role} : role.name = other.name ↔ role.Meets other := by
  constructor
  · intro h
    cases role with
    | ofTutorial occasion =>
        cases other with
        | ofTutorial occasion' =>
            rw [(ending_inj h).1]
            exact .same _
        | ofStep occasion' step detail => exact absurd (ending_inj h).2 (tutorial_ne step detail)
    | ofStep occasion step detail =>
        cases other with
        | ofTutorial occasion' =>
            exact absurd (ending_inj h).2.symm (tutorial_ne step detail)
        | ofStep occasion' step' detail' =>
            rcases ending_inj h with ⟨rfl, htexts⟩
            have hchars := congrArg String.toList htexts
            simp only [String.toList_append, List.append_assoc] at hchars
            rcases List.append_eq_append_iff.mp hchars with ⟨front, hstep, hrest⟩ |
              ⟨front, hstep, hrest⟩
            · exact meets_of_longer hstep hrest
            · exact (meets_of_longer hstep hrest).symm
  · exact name_of_meets

theorem name_inj_of_step {occasion other : Occasion} {step detail rest : String}
    (h : (ofStep occasion step detail).name = (ofStep other step rest).name) :
    ofStep occasion step detail = ofStep other step rest := by
  rcases ending_inj h with ⟨rfl, htexts⟩
  rw [String.append_right_inj] at htexts
  rw [htexts]

theorem not_meets_ofTutorial (occasion other : Occasion) (step detail : String) :
    ¬ (ofTutorial occasion).Meets (ofStep other step detail) := by
  intro h
  cases h

example : (ofStep .optionSelected "a" "BStepC").name = (ofStep .optionSelected "aStepB" "C").name :=
  rfl

end Role

/--
What makes a function run: a signal of an object, or an option or a condition that the set-up
function of a step registers under a variable.
-/
inductive Caller where
  | connection (object signal : String)
  | option (setup object : String)
  | condition (setup object : String)
  deriving DecidableEq

/-- A function by what it is for and what makes it run, with the code that was given for it. -/
structure Function where
  role : Role
  caller : Caller
  code : String

def Function.handler (function : Function) : Handler :=
  ⟨function.role.name, function.code⟩

end Script

/-!
# Functions of a tutorial

The functions that a tutorial needs are told from the tutorial alone, in the order in which a script
has them.
-/

namespace Reaction

def optionFunction (step : String) (scope : Scope) (reaction : Reaction) : Function where
  role := .ofStep .optionSelected step (Text.upperCamelCase reaction.option)
  caller := .option (Role.ofStep .setup step "").name
    (scope.variableFor (Text.lowerCamelCase reaction.option ++ "Option"))
  code := reaction.code

def conditionFunction (step object : String) (reaction : Reaction) : Function where
  role := .ofStep .conditionMet step (Text.upperCamelCase object)
  caller := .condition (Role.ofStep .setup step "").name object
  code := reaction.code

def function? (step : String) (scope : Scope) (reaction : Reaction) : Option Function :=
  match reaction.problem?, reaction.trigger with
  | some _, _ => none
  | none, .optionSelected => some (reaction.optionFunction step scope)
  | none, .conditionMet =>
      (reaction.condition.bind fun condition => (condition.emit scope).object).map fun object =>
        reaction.conditionFunction step object

/-- Only a reaction that runs code needs its function. -/
def answer (reaction : Reaction) (function : Function) : List Function :=
  match reaction.response with
  | .nextStep => []
  | .customCode => [function]

def functionsAll (step : String) (scope : Scope) : List Reaction -> List Function
  | [] => []
  | reaction :: rest =>
      (reaction.function? step scope).toList.flatMap reaction.answer ++
        functionsAll step (scope.requestAll reaction.requested) rest

end Reaction

namespace Step

def identifier (step : Step) : String :=
  Text.lowerCamelCase step.id

def functions (step : Step) : List Function :=
  if step.id = "" then []
  else
    (if step.setup = "" && step.reactions.isEmpty then []
      else
        ⟨.ofStep .setup step.identifier "", .connection (step.identifier ++ "Step") "setup",
          step.setup⟩ :: Reaction.functionsAll step.identifier Scope.empty step.reactions) ++
    (if step.tearDown = "" then []
      else
        [⟨.ofStep .tearDown step.identifier "", .connection (step.identifier ++ "Step") "tearDown",
          step.tearDown⟩])

/-- No function of the one step reads the same as a function of the other one. -/
def Apart (step other : Step) : Prop :=
  forall function, function ∈ step.functions -> forall another, another ∈ other.functions ->
    ¬ function.role.Meets another.role

end Step

namespace Tutorial

def ownFunctions (tutorial : Tutorial) : List Function :=
  (if tutorial.setup = "" then []
    else [⟨.ofTutorial .setup, .connection "tutorial" "setup", tutorial.setup⟩]) ++
    (if tutorial.tearDown = "" then []
      else [⟨.ofTutorial .tearDown, .connection "tutorial" "tearDown", tutorial.tearDown⟩])

/-- The functions that are exported with the tutorial, in order. -/
def functions (tutorial : Tutorial) : List Function :=
  tutorial.ownFunctions ++ tutorial.steps.flatMap Step.functions

end Tutorial

/-!
# Declarations and calls

What a script declares and calls is read off its blocks; it is compared with the functions in the
order of the script.  A set-up function comes before the handlers that it registers and is
connected after them, so the calls are the expected ones up to their order.
-/

namespace Script

def Target.callee? : Target -> Option String
  | step _ => none
  | handler function => some function

/-- What the statement registers as the answer to something. -/
def Statement.target? : Statement -> Option Target
  | addOption _ target => some target
  | addCondition _ target => some target
  | _ => none

/-- The function that the statement has called, if it stands in the given set-up function. -/
def Statement.call? (setup : String) : Statement -> Option (Caller × String)
  | addOption object target => target.callee?.map fun callee => (.option setup object, callee)
  | addCondition object target => target.callee?.map fun callee => (.condition setup object, callee)
  | _ => none

theorem filterMap_singleton {α β : Type} (f : α -> Option β) (a : α) :
    [a].filterMap f = (f a).toList := by
  rw [List.filterMap_eq_flatMap_toList, List.flatMap_singleton]

theorem Statement.call?_eq_none {statement : Statement} (h : statement.target? = none)
    (setup : String) : statement.call? setup = none := by
  cases statement with
  | addOption object target => cases h
  | addCondition object target => cases h
  | _ => rfl

namespace Block

def declaration? : Block -> Option (String × String)
  | function name _ _ code => some (name, code)
  | _ => none

/-- The functions that the block has called, each with what calls it. -/
def calls : Block -> List (Caller × String)
  | function name _ statements _ => statements.filterMap (Statement.call? name)
  | connect object signal callee => [(.connection object signal, callee)]
  | _ => []

end Block

/-- The blocks declare the functions and nothing else, and have each called by its caller alone. -/
structure Declares (blocks : List Block) (functions : List Function) : Prop where
  declarations : blocks.filterMap Block.declaration? =
    functions.map fun function => (function.role.name, function.code)
  calls : (blocks.flatMap Block.calls).Perm
    (functions.map fun function => (function.caller, function.role.name))

namespace Declares

theorem append {blocks others : List Block} {functions more : List Function}
    (h : Declares blocks functions) (hothers : Declares others more) :
    Declares (blocks ++ others) (functions ++ more) where
  declarations := by
    rw [List.filterMap_append, List.map_append, h.declarations, hothers.declarations]
  calls := by
    rw [List.flatMap_append, List.map_append]
    exact h.calls.append hothers.calls

theorem nothing {blocks : List Block}
    (h : forall block, block ∈ blocks -> block.declaration? = none ∧ block.calls = []) :
    Declares blocks [] where
  declarations := List.filterMap_eq_nil_iff.mpr fun block hmem => (h block hmem).1
  calls := by
    rw [List.flatMap_eq_nil_iff.mpr fun block hmem => (h block hmem).2]
    exact List.Perm.refl _

theorem flatMap {α : Type} {blocks : α -> List Block} {functions : α -> List Function}
    (h : forall a, Declares (blocks a) (functions a)) (items : List α) :
    Declares (items.flatMap blocks) (items.flatMap functions) := by
  induction items with
  | nil => exact nothing (by simp)
  | cons first rest ih =>
      rw [List.flatMap_cons, List.flatMap_cons]
      exact (h first).append ih

end Declares
end Script

/-!
# Handlers of reactions

A handler is written where its reaction is registered, and it is named there in the answer.
-/

namespace Condition

theorem target?_emitAll {conditions : List Condition}
    (h : forall condition, condition ∈ conditions -> forall scope statement,
      statement ∈ (condition.emit scope).statements -> statement.target? = none)
    (scope : Scope) {statement : Statement}
    (hmem : statement ∈ (emitAll scope conditions).statements) : statement.target? = none := by
  induction conditions generalizing scope with
  | nil => cases hmem
  | cons first rest ih =>
      rw [List.forall_mem_cons] at h
      rcases List.mem_append.mp hmem with hmem | hmem
      · exact h.1 scope statement hmem
      · rcases List.mem_cons.mp hmem with rfl | hmem
        · rfl
        · exact ih h.2 (first.emit scope).scope hmem

theorem target?_emit (condition : Condition) (scope : Scope) {statement : Statement}
    (hmem : statement ∈ (condition.emit scope).statements) : statement.target? = none := by
  induction condition generalizing scope statement with
  | leaf l =>
      cases hproblem : l.problem? with
      | some problem =>
          simp only [emit, Leaf.emit, hproblem, List.mem_singleton] at hmem
          rw [hmem]
          rfl
      | none =>
          simp only [emit, Leaf.emit, hproblem, List.mem_cons, List.not_mem_nil, or_false] at hmem
          rcases hmem with rfl | rfl
          · rfl
          · cases l <;> rfl
  | composed composition children ih =>
      simp only [emit, List.mem_append, List.mem_cons, List.mem_map] at hmem
      rcases hmem with hmem | rfl | ⟨object, _, rfl⟩
      · exact target?_emitAll (fun child hchild scope statement => ih child hchild scope) scope hmem
      · rfl
      · rfl
  | unset =>
      simp only [emit, List.mem_singleton] at hmem
      rw [hmem]
      rfl
  | negation child ih =>
      simp only [emit, List.mem_append, List.mem_cons, List.mem_map] at hmem
      rcases hmem with hmem | rfl | rfl | ⟨object, _, rfl⟩
      · exact ih _ hmem
      · rfl
      · rfl
      · rfl

end Condition

namespace Reaction

structure Handles (setup : String) (registered : Registered) (functions : List Function) :
    Prop where
  handlers : registered.handlers = functions.map Function.handler
  calls : registered.statements.filterMap (Statement.call? setup) =
    functions.map fun function => (function.caller, function.role.name)

theorem handlers_eq_answer {reaction : Reaction} (function : Function)
    (hcode : function.code = reaction.code) :
    reaction.handlers function.role.name = (reaction.answer function).map Function.handler := by
  unfold handlers answer
  cases reaction.response with
  | nextStep => rfl
  | customCode => rw [List.map_singleton, Function.handler, hcode]

theorem call?_target {setup : String} (statement : Target -> Statement) (function : Function)
    (hstep : forall id, (statement (.step id)).call? setup = none)
    (hhandler : forall name, (statement (.handler name)).call? setup = some (function.caller, name))
    (reaction : Reaction) :
    ((statement (reaction.target function.role.name)).call? setup).toList =
      (reaction.answer function).map fun function => (function.caller, function.role.name) := by
  unfold target answer
  cases reaction.response with
  | nextStep => exact congrArg Option.toList (hstep reaction.nextStep)
  | customCode => exact congrArg Option.toList (hhandler function.role.name)

theorem handles_register (step : String) (scope : Scope) (reaction : Reaction) :
    Handles (Role.ofStep .setup step "").name (reaction.register (step ++ "Step") scope)
      ((reaction.function? step scope).toList.flatMap reaction.answer) := by
  rcases register_cases (step ++ "Step") scope reaction with ⟨problem, hproblem, hregister⟩ |
    ⟨hproblem, htrigger, hregister⟩ | ⟨condition, hproblem, htrigger, hcondition, hregister⟩
  · rw [hregister]
    simp only [function?, hproblem]
    exact ⟨rfl, rfl⟩
  · rw [hregister]
    simp only [function?, hproblem, htrigger, Option.toList_some, List.flatMap_singleton]
    constructor
    · exact handlers_eq_answer (reaction.optionFunction step scope) rfl
    · exact (filterMap_singleton (Statement.call? _) _).trans
        (call?_target (.addOption _) (reaction.optionFunction step scope) (fun _ => rfl)
          (fun _ => rfl) reaction)
  · have hemit : (condition.emit scope).statements.filterMap
        (Statement.call? (Role.ofStep .setup step "").name) = [] :=
      List.filterMap_eq_nil_iff.mpr fun statement hmem =>
        Statement.call?_eq_none (condition.target?_emit scope hmem) _
    rw [hregister]
    simp only [function?, hproblem, htrigger, hcondition, Option.bind_some, registerCondition]
    cases (condition.emit scope).object with
    | none => exact ⟨rfl, hemit⟩
    | some object =>
        simp only [Option.map_some, Option.toList_some, List.flatMap_singleton]
        constructor
        · exact handlers_eq_answer (reaction.conditionFunction step object) rfl
        · rw [List.filterMap_append, hemit, List.nil_append, filterMap_singleton]
          exact call?_target (.addCondition object) (reaction.conditionFunction step object)
            (fun _ => rfl) (fun _ => rfl) reaction

theorem handles_registerAll (step : String) (closed : Bool) (scope : Scope)
    (reactions : List Reaction) :
    Handles (Role.ofStep .setup step "").name
      (registerAll (step ++ "Step") closed scope reactions)
      (functionsAll step scope reactions) := by
  induction reactions generalizing scope with
  | nil => exact ⟨rfl, rfl⟩
  | cons first rest ih =>
      have hscope := (requests_register (step ++ "Step") scope first).reached
      have hfirst := handles_register step scope first
      have hrest := ih (scope.requestAll first.requested)
      have hblank : (if closed || !rest.isEmpty then [Statement.blank] else []).filterMap
          (Statement.call? (Role.ofStep .setup step "").name) = [] := by
        split <;> rfl
      constructor
      · rw [registerAll, functionsAll, List.map_append, hscope, hfirst.handlers, hrest.handlers]
      · simp only [registerAll, functionsAll, List.filterMap_append, List.map_append, hscope,
          hfirst.calls, hrest.calls, hblank, List.append_nil]

end Reaction

/-!
# Blocks of steps and tutorials

The handlers of a step stand before its set-up function, which registers them.
-/

namespace Script

theorem Handler.calls_blocks (handler : Handler) : handler.blocks.flatMap Block.calls = [] := by
  unfold Handler.blocks
  split <;> rfl

/-- A function with the handlers that it has called, and the connection that calls it. -/
theorem Declares.connected {name parameter object signal : String} {statements : List Statement}
    {code : String} {role : Role} (functions : List Function) (hname : role.name = name)
    (hstatements : statements.filterMap (Statement.call? name) =
      functions.map fun function => (function.caller, function.role.name)) :
    Declares (.function name parameter statements code :: .connect object signal name ::
        (functions.map Function.handler).flatMap Handler.blocks)
      (⟨role, .connection object signal, code⟩ :: functions) := by
  have hdeclarations : ((functions.map Function.handler).flatMap Handler.blocks).filterMap
      Block.declaration? = functions.map fun function => (function.role.name, function.code) := by
    rw [List.filterMap_flatMap, List.flatMap_map, List.map_eq_flatMap]
    rfl
  have hcalls : ((functions.map Function.handler).flatMap Handler.blocks).flatMap
      Block.calls = [] := by
    rw [List.flatMap_assoc]
    exact List.flatMap_eq_nil_iff.mpr fun handler _ => handler.calls_blocks
  subst hname
  constructor
  · exact congrArg (List.cons _) hdeclarations
  · rw [List.flatMap_cons, List.flatMap_cons, hcalls, List.append_nil, List.map_cons]
    change (statements.filterMap (Statement.call? role.name) ++
      [(Caller.connection object signal, role.name)]).Perm _
    rw [hstatements]
    exact List.perm_append_singleton _ _

end Script

namespace Step

theorem declares_setupBlocks (step : Step) :
    Declares (step.setupBlocks Scope.empty).2
      (if step.setup = "" && step.reactions.isEmpty then []
        else
          ⟨.ofStep .setup step.identifier "", .connection (step.identifier ++ "Step") "setup",
            step.setup⟩ :: Reaction.functionsAll step.identifier Scope.empty step.reactions) := by
  by_cases hidle : (step.setup = "" && step.reactions.isEmpty) = true
  · rw [setupBlocks, if_pos hidle, if_pos hidle]
    exact .nothing (by simp)
  · have hname : (Role.ofStep .setup step.identifier "").name = step.objectName ++ "Setup" := by
      simp [Role.name, Occasion.ending, objectName, identifier]
    have hhandles : Reaction.Handles (step.objectName ++ "Setup") (step.registered Scope.empty)
        (Reaction.functionsAll step.identifier Scope.empty step.reactions) :=
      hname ▸ Reaction.handles_registerAll step.identifier _ Scope.empty step.reactions
    rw [setupBlocks_of_not_idle hidle, if_neg hidle, hhandles.handlers]
    exact Declares.connected _ hname hhandles.calls

theorem declares_tearDownBlocks (step : Step) :
    Declares step.tearDownBlocks
      (if step.tearDown = "" then []
        else
          [⟨.ofStep .tearDown step.identifier "",
            .connection (step.identifier ++ "Step") "tearDown", step.tearDown⟩]) := by
  unfold tearDownBlocks
  split
  · exact .nothing (by simp)
  · apply Declares.connected [] _ rfl
    simp [Role.name, Occasion.ending, objectName, identifier]

theorem declares_blocks (step : Step) : Declares (step.blocks Scope.empty).2 step.functions := by
  by_cases hid : step.id = ""
  · rw [blocks, functions, if_pos hid, if_pos hid]
    exact .nothing (by simp [Block.declaration?, Block.calls])
  · have hbegin : Declares
        [.stepComment step.id, .newStep step.objectName step.id, step.textBlock, .gap] [] := by
      unfold textBlock
      split
      · exact .nothing (by simp [Block.declaration?, Block.calls])
      · exact .nothing (by simp [Block.declaration?, Block.calls])
    have hend : Declares [.addStep step.objectName, .gap] [] :=
      .nothing (by simp [Block.declaration?, Block.calls])
    have hall := ((hbegin.append step.declares_setupBlocks).append
      step.declares_tearDownBlocks).append hend
    rw [blocks_of_id hid, functions, if_neg hid]
    simpa using hall

end Step

namespace Tutorial

theorem declares_functionBlocks {name signal code : String} (role : Role)
    (hname : role.name = name) :
    Declares (functionBlocks name signal code)
      (if code = "" then [] else [⟨role, .connection "tutorial" signal, code⟩]) := by
  unfold functionBlocks
  split
  · exact .nothing (by simp)
  · exact Declares.connected [] hname rfl

theorem declares_headBlocks (tutorial : Tutorial) :
    Declares tutorial.headBlocks tutorial.ownFunctions := by
  have hbegin : Declares
      ((if tutorial.license = "" then [] else [Block.license tutorial.license]) ++
        [Block.translations] ++ tutorial.informationBlocks) [] := by
    apply Declares.nothing
    unfold informationBlocks
    split_ifs <;> simp [Block.declaration?, Block.calls]
  have hsetup : Declares (functionBlocks "tutorialSetup" "setup" tutorial.setup) _ :=
    declares_functionBlocks (.ofTutorial .setup) rfl
  have htearDown : Declares (functionBlocks "tutorialTearDown" "tearDown" tutorial.tearDown) _ :=
    declares_functionBlocks (.ofTutorial .tearDown) rfl
  exact (hbegin.append hsetup).append htearDown

theorem declares_scriptBlocks (tutorial : Tutorial) :
    Declares tutorial.scriptBlocks tutorial.functions := by
  rw [scriptBlocks, Step.blocksAll_empty]
  exact tutorial.declares_headBlocks.append (.flatMap Step.declares_blocks tutorial.steps)

def declarations (tutorial : Tutorial) : List (String × String) :=
  tutorial.scriptBlocks.filterMap Block.declaration?

def functionNames (tutorial : Tutorial) : List String :=
  tutorial.declarations.map Prod.fst

def calls (tutorial : Tutorial) : List (Caller × String) :=
  tutorial.scriptBlocks.flatMap Block.calls

end Tutorial

/-!
# Names of the functions of a tutorial

Two functions of one step have the same role only where two of its reactions wait for the same
thing.
-/

theorem Reaction.exists_role_of_function? {step : String} {scope : Scope} {reaction : Reaction}
    {function : Function} (h : reaction.function? step scope = some function) :
    exists occasion detail, function.role = .ofStep occasion step detail := by
  unfold function? at h
  split at h
  · cases h
  · cases h
    exact ⟨_, _, rfl⟩
  · rcases Option.map_eq_some_iff.mp h with ⟨object, _, rfl⟩
    exact ⟨_, _, rfl⟩

theorem Reaction.exists_role_of_mem_functionsAll {step : String} {scope : Scope}
    {reactions : List Reaction} {function : Function}
    (h : function ∈ functionsAll step scope reactions) :
    exists occasion detail, function.role = .ofStep occasion step detail := by
  induction reactions generalizing scope with
  | nil => cases h
  | cons first rest ih =>
      rcases List.mem_append.mp h with h | h
      · rcases List.mem_flatMap.mp h with ⟨written, hwritten, hanswer⟩
        have hsame : function = written := by
          unfold answer at hanswer
          split at hanswer
          · cases hanswer
          · exact List.mem_singleton.mp hanswer
        rw [hsame]
        exact exists_role_of_function? (Option.mem_toList.mp hwritten)
      · exact ih h

theorem Step.exists_role_of_mem {step : Step} {function : Function}
    (h : function ∈ step.functions) :
    exists occasion detail, function.role = .ofStep occasion step.identifier detail := by
  unfold functions at h
  split at h
  · cases h
  · rcases List.mem_append.mp h with h | h
    · split at h
      · cases h
      · rcases List.mem_cons.mp h with rfl | h
        · exact ⟨_, _, rfl⟩
        · exact Reaction.exists_role_of_mem_functionsAll h
    · split at h
      · cases h
      · rw [List.mem_singleton.mp h]
        exact ⟨_, _, rfl⟩

namespace Tutorial

theorem exists_role_of_mem_ownFunctions {tutorial : Tutorial} {function : Function}
    (h : function ∈ tutorial.ownFunctions) :
    exists occasion, function.role = .ofTutorial occasion := by
  rcases List.mem_append.mp h with h | h
  · split at h
    · cases h
    · rw [List.mem_singleton.mp h]
      exact ⟨_, rfl⟩
  · split at h
    · cases h
    · rw [List.mem_singleton.mp h]
      exact ⟨_, rfl⟩

theorem nodup_ownFunctions (tutorial : Tutorial) :
    (tutorial.ownFunctions.map fun function => function.role.name).Nodup := by
  unfold ownFunctions
  split_ifs <;> simp [Role.name, Occasion.ending]

theorem nodup_names_iff {tutorial : Tutorial}
    (hsteps : forall step, step ∈ tutorial.steps -> (step.functions.map Function.role).Nodup) :
    (tutorial.functions.map fun function => function.role.name).Nodup ↔
      tutorial.steps.Pairwise Step.Apart := by
  have hwithin : forall step, step ∈ tutorial.steps ->
      step.functions.Pairwise fun function other => function.role.name ≠ other.role.name := by
    intro step hstep
    have hroles := hsteps step hstep
    rw [List.Nodup, List.pairwise_map] at hroles
    apply hroles.imp_of_mem
    intro function other hfunction hother hne hname
    rcases Step.exists_role_of_mem hfunction with ⟨occasion, detail, hrole⟩
    rcases Step.exists_role_of_mem hother with ⟨occasion', detail', hrole'⟩
    rw [hrole, hrole'] at hne hname
    exact hne (Role.name_inj_of_step hname)
  have hown : forall function, function ∈ tutorial.ownFunctions -> forall other,
      other ∈ tutorial.steps.flatMap Step.functions -> function.role.name ≠ other.role.name := by
    intro function hfunction other hother
    rcases exists_role_of_mem_ownFunctions hfunction with ⟨occasion, hrole⟩
    rcases List.mem_flatMap.mp hother with ⟨step, _, hother⟩
    rcases Step.exists_role_of_mem hother with ⟨occasion', detail, hrole'⟩
    rw [hrole, hrole', ne_eq, Role.name_eq_iff_meets]
    exact Role.not_meets_ofTutorial _ _ _ _
  have hfirst := tutorial.nodup_ownFunctions
  rw [List.Nodup, List.pairwise_map] at hfirst
  rw [List.Nodup, List.pairwise_map, functions, List.pairwise_append, List.pairwise_flatMap]
  simp only [ne_eq, Role.name_eq_iff_meets] at hfirst hwithin hown ⊢
  constructor
  · intro h
    exact h.2.1.2
  · intro h
    exact ⟨hfirst, ⟨hwithin, h⟩, hown⟩

/--
The script declares the functions of its tutorial, each with its own code, and has each called
once, by the signal, option or condition that it was written for.  If no step has two functions for
the same thing, then none overwrites another exactly if no function of a step reads the same as one
of another step.
-/
theorem functions_distinct_iff {tutorial : Tutorial}
    (hsteps : forall step, step ∈ tutorial.steps -> (step.functions.map Function.role).Nodup) :
    tutorial.declarations =
        tutorial.functions.map (fun function => (function.role.name, function.code)) ∧
      tutorial.calls.Perm
        (tutorial.functions.map fun function => (function.caller, function.role.name)) ∧
      (tutorial.functionNames.Nodup ↔ tutorial.steps.Pairwise Step.Apart) := by
  have hdeclares := tutorial.declares_scriptBlocks
  have hnames : tutorial.functionNames =
      tutorial.functions.map fun function => function.role.name := by
    rw [functionNames, declarations, hdeclares.declarations, List.map_map]
    rfl
  refine ⟨hdeclares.declarations, hdeclares.calls, ?_⟩
  rw [hnames]
  exact tutorial.nodup_names_iff hsteps

/-- Two steps that wait for the same option, and one of them twice for the same signal. -/
def repeatedTriggers : Tutorial where
  setup := "a();"
  steps :=
    [{ id := "first"
       reactions :=
        [{ trigger := .optionSelected, option := "Go on", response := .customCode, code := "b();" },
          { trigger := .conditionMet, condition := some (.leaf (.signal "e" "s")),
            response := .customCode, code := "c();" },
          { trigger := .conditionMet, condition := some (.leaf (.signal "e" "s")),
            response := .customCode, code := "d();" }] },
      { id := "second"
        tearDown := "e();"
        reactions :=
          [{ trigger := .optionSelected, option := "Go on", response := .customCode,
             code := "f();" }] }]

theorem functions_distinct_of_repeated_triggers :
    (forall step, step ∈ repeatedTriggers.steps -> (step.functions.map Function.role).Nodup) ∧
      repeatedTriggers.declarations =
          repeatedTriggers.functions.map (fun function => (function.role.name, function.code)) ∧
      repeatedTriggers.calls.Perm
        (repeatedTriggers.functions.map fun function =>
          (function.caller, function.role.name)) ∧
      (repeatedTriggers.functionNames.Nodup ↔
        repeatedTriggers.steps.Pairwise Step.Apart) := by
  have hsteps : forall step, step ∈ repeatedTriggers.steps ->
      (step.functions.map Function.role).Nodup := by
    decide
  exact ⟨hsteps, functions_distinct_iff hsteps⟩

def sharedIdentifier : Tutorial where
  name := "t"
  description := "d"
  steps :=
    [{ id := "the end", text := "x", tearDown := "a();" },
      { id := "theEnd", text := "x", tearDown := "b();" }]

/-- The second step's function takes the place of the first one's. -/
theorem shared_identifier_overwrites :
    (sharedIdentifier.steps.map Step.id).Nodup ∧
      sharedIdentifier.declarations =
        [("theEndStepTearDown", "a();"), ("theEndStepTearDown", "b();")] ∧
      ¬ sharedIdentifier.functionNames.Nodup := by
  have hdeclarations : sharedIdentifier.declarations =
      [("theEndStepTearDown", "a();"), ("theEndStepTearDown", "b();")] := by
    decide
  refine ⟨by decide, hdeclarations, ?_⟩
  rw [functionNames, hdeclarations]
  decide

end Tutorial

end TutorialKit
