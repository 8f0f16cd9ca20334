import TutorialKit.Script.Block
import TutorialKit.Script.Conditions
import TutorialKit.Script.Markup
import TutorialKit.Tutorial

/-!
# Export as a script

The script first gives the information about the tutorial and its own functions, then one group
of blocks for every step.  The names in use are kept while a step is written; no name is in use
where the first step begins.
-/

namespace TutorialKit

open Script

namespace Script

structure Handler where
  name : String
  code : String
  deriving DecidableEq

structure Registered where
  scope : Scope
  statements : List Statement
  handlers : List Handler

namespace Handler

/-- A handler without code holds a problem. -/
def blocks (handler : Handler) : List Block :=
  let statements := if handler.code = "" then [.problem .handlerCode] else []
  [.function handler.name "" statements handler.code, .gap]

end Handler
end Script

namespace Step

def objectName (step : Step) : String :=
  Text.lowerCamelCase step.id ++ "Step"

end Step

namespace Reaction

def problem? (reaction : Reaction) : Option Problem :=
  if reaction.trigger = .conditionMet && reaction.condition.isNone then some .conditionUnset
  else if reaction.trigger = .optionSelected && reaction.option = "" then some .optionName
  else if reaction.response = .nextStep && reaction.nextStep = "" then some .nextStep
  else none

def target (reaction : Reaction) (handler : String) : Target :=
  match reaction.response with
  | .nextStep => .step reaction.nextStep
  | .customCode => .handler handler

def handlers (reaction : Reaction) (handler : String) : List Handler :=
  match reaction.response with
  | .nextStep => []
  | .customCode => [⟨handler, reaction.code⟩]

def registerOption (step : String) (scope : Scope) (reaction : Reaction) : Registered :=
  let name := Text.lowerCamelCase reaction.option ++ "Option"
  let object := scope.variableFor name
  let handler := step ++ Text.upperCamelCase reaction.option ++ "OptionSelected"
  ⟨scope.request name,
    [.newOption object reaction.option, .addOption object (reaction.target handler)],
    reaction.handlers handler⟩

/-- A condition without an object is not registered. -/
def registerCondition (step : String) (scope : Scope) (reaction : Reaction)
    (condition : Condition) : Registered :=
  let emitted := condition.emit scope
  match emitted.object with
  | none => ⟨emitted.scope, emitted.statements, []⟩
  | some object =>
      let handler := step ++ Text.upperCamelCase object ++ "ConditionMet"
      ⟨emitted.scope, emitted.statements ++ [.addCondition object (reaction.target handler)],
        reaction.handlers handler⟩

def register (step : String) (scope : Scope) (reaction : Reaction) : Registered :=
  match reaction.problem? with
  | some problem => ⟨scope, [.problem problem], []⟩
  | none =>
      match reaction.trigger, reaction.condition with
      | .optionSelected, _ => registerOption step scope reaction
      | .conditionMet, some condition => registerCondition step scope reaction condition
      | .conditionMet, none => ⟨scope, [], []⟩

/--
What is written for the reactions of a step.  A blank line stands between two reactions, and
after the last one if `closed` says that something follows.
-/
def registerAll (step : String) (closed : Bool) (scope : Scope) : List Reaction -> Registered
  | [] => ⟨scope, [], []⟩
  | reaction :: rest =>
      let first := reaction.register step scope
      let later := registerAll step closed first.scope rest
      let blank := if closed || !rest.isEmpty then [.blank] else []
      ⟨later.scope, first.statements ++ blank ++ later.statements,
        first.handlers ++ later.handlers⟩

end Reaction

namespace Step

def textContext (text : String) : String :=
  if mightBeRichText text || mightBeSemanticMarkup text then "@info" else "@info/plain"

def textBlock (step : Step) : Block :=
  if step.text = "" then .problem .stepText
  else .setText step.objectName (textContext step.text) step.text

def setupBlocks (scope : Scope) (step : Step) : Scope × List Block :=
  if step.setup = "" && step.reactions.isEmpty then (scope, [])
  else
    let registered := Reaction.registerAll step.objectName (step.setup != "") scope step.reactions
    let function := step.objectName ++ "Setup"
    (Scope.empty,
      [.function function "step" registered.statements step.setup,
        .connect step.objectName "setup" function] ++
        registered.handlers.flatMap Handler.blocks)

def tearDownBlocks (step : Step) : List Block :=
  if step.tearDown = "" then []
  else
    let function := step.objectName ++ "TearDown"
    [.function function "step" [] step.tearDown, .connect step.objectName "tearDown" function]

def blocks (scope : Scope) (step : Step) : Scope × List Block :=
  if step.id = "" then (scope, [.problem .stepId, .gap])
  else
    let setup := step.setupBlocks scope
    (setup.1,
      [.stepComment step.id, .newStep step.objectName step.id, step.textBlock, .gap] ++ setup.2 ++
        step.tearDownBlocks ++ [.addStep step.objectName, .gap])

def blocksAll (scope : Scope) : List Step -> Scope × List Block
  | [] => (scope, [])
  | step :: rest =>
      let first := step.blocks scope
      let later := blocksAll first.1 rest
      (later.1, first.2 ++ later.2)

end Step

namespace Tutorial

def informationBlocks (tutorial : Tutorial) : List Block :=
  [if tutorial.name = "" then .problem .tutorialName else .setName tutorial.name,
    if tutorial.description = "" then .problem .tutorialDescription
    else .setDescription tutorial.description,
    .gap]

def functionBlocks (name signal code : String) : List Block :=
  if code = "" then []
  else [.function name "tutorial" [] code, .connect "tutorial" signal name]

def headBlocks (tutorial : Tutorial) : List Block :=
  (if tutorial.license = "" then [] else [.license tutorial.license]) ++
    [.translations] ++ tutorial.informationBlocks ++
    functionBlocks "tutorialSetup" "setup" tutorial.setup ++
    functionBlocks "tutorialTearDown" "tearDown" tutorial.tearDown

def scriptBlocks (tutorial : Tutorial) : List Block :=
  tutorial.headBlocks ++ (Step.blocksAll Scope.empty tutorial.steps).2

def toScript (tutorial : Tutorial) : String :=
  blocksText tutorial.scriptBlocks

end Tutorial

end TutorialKit
