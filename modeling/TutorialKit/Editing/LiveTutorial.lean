import TutorialKit.Editing.LiveCondition
import TutorialKit.Text.Quoted
import TutorialKit.Tutorial

/-!
# Tutorials that are edited

In an open document steps and reactions have an identity of their own, so that two with the same
content can be told apart.  Nothing may be put where something with its identity already is, or
taken from where it is not.
-/

namespace TutorialKit

structure StepKey where
  name : String
  deriving DecidableEq, Inhabited

structure ReactionKey where
  name : String
  deriving DecidableEq, Inhabited

namespace StepKey

def describe (key : StepKey) : String := "step#" ++ key.name

end StepKey

namespace ReactionKey

def describe (key : ReactionKey) : String := "reaction#" ++ key.name

end ReactionKey

structure LiveReaction where
  key : ReactionKey
  trigger : Trigger
  option : String
  condition : Option LiveCondition
  response : Response
  nextStep : String
  code : String
  deriving Inhabited

structure LiveStep where
  key : StepKey
  id : String
  text : String
  setup : String
  tearDown : String
  reactions : List LiveReaction
  deriving Inhabited

structure LiveTutorial where
  name : String
  description : String
  license : String
  setup : String
  tearDown : String
  steps : List LiveStep
  deriving Inhabited

inductive Violation where
  | stepPresent (key : StepKey)
  | stepAbsent (key : StepKey)
  | stepIndex (index count : Nat)
  | reactionPresent (key : ReactionKey) (step : String)
  | reactionAbsent (key : ReactionKey) (step : String)
  | reactionIndex (index count : Nat)
  deriving DecidableEq

namespace Violation

def message : Violation -> String
  | stepPresent key => key.describe ++ " already belongs to the tutorial"
  | stepAbsent key => key.describe ++ " does not belong to the tutorial"
  | stepIndex index count =>
      "step index " ++ toString index ++ " out of range for tutorial with " ++ toString count ++
        " steps"
  | reactionPresent key step =>
      key.describe ++ " already belongs to step " ++ Text.Quoted.encode step
  | reactionAbsent key step =>
      key.describe ++ " does not belong to step " ++ Text.Quoted.encode step
  | reactionIndex index count =>
      "reaction index " ++ toString index ++ " out of range for step with " ++ toString count ++
        " reactions"

end Violation

/-!
# Reactions

A value is stored in the field that it is of, and the value before it is given back.
-/

inductive ReactionValue where
  | trigger (trigger : Trigger)
  | option (name : String)
  | condition (condition : Option LiveCondition)
  | response (response : Response)
  | nextStep (id : String)
  | code (code : String)

namespace LiveReaction

def content (reaction : LiveReaction) : Reaction where
  trigger := reaction.trigger
  option := reaction.option
  condition := reaction.condition.map LiveCondition.content
  response := reaction.response
  nextStep := reaction.nextStep
  code := reaction.code

def ofContent (key : ReactionKey) (reaction : Reaction) : LiveReaction where
  key := key
  trigger := reaction.trigger
  option := reaction.option
  condition := reaction.condition.map LiveCondition.ofContent
  response := reaction.response
  nextStep := reaction.nextStep
  code := reaction.code

/-- Stores a value and gives back the one that it takes the place of. -/
def exchange (reaction : LiveReaction) : ReactionValue -> LiveReaction × ReactionValue
  | .trigger trigger => ({ reaction with trigger := trigger }, .trigger reaction.trigger)
  | .option name => ({ reaction with option := name }, .option reaction.option)
  | .condition condition =>
      ({ reaction with condition := condition }, .condition reaction.condition)
  | .response response => ({ reaction with response := response }, .response reaction.response)
  | .nextStep id => ({ reaction with nextStep := id }, .nextStep reaction.nextStep)
  | .code code => ({ reaction with code := code }, .code reaction.code)

@[simp] theorem key_exchange (reaction : LiveReaction) (value : ReactionValue) :
    (reaction.exchange value).1.key = reaction.key := by
  cases value <;> rfl

theorem exchange_exchange (reaction : LiveReaction) (value : ReactionValue) :
    (reaction.exchange value).1.exchange (reaction.exchange value).2 = (reaction, value) := by
  cases value <;> rfl

end LiveReaction

def replaceFirst {α : Type} (p : α -> Bool) (f : α -> α) : List α -> List α
  | [] => []
  | a :: rest => if p a then f a :: rest else a :: replaceFirst p f rest

/-!
# Steps

The reactions of a step are found by their keys; what is put in or taken out has to fit them.
-/

inductive StepField where
  | id
  | text
  | setup
  | tearDown
  deriving DecidableEq

namespace LiveStep

def content (step : LiveStep) : Step where
  id := step.id
  text := step.text
  setup := step.setup
  tearDown := step.tearDown
  reactions := step.reactions.map LiveReaction.content

def get (step : LiveStep) : StepField -> String
  | .id => step.id
  | .text => step.text
  | .setup => step.setup
  | .tearDown => step.tearDown

def set (step : LiveStep) (field : StepField) (text : String) : LiveStep :=
  match field with
  | .id => { step with id := text }
  | .text => { step with text := text }
  | .setup => { step with setup := text }
  | .tearDown => { step with tearDown := text }

def reaction? (key : ReactionKey) (step : LiveStep) : Option LiveReaction :=
  step.reactions.find? fun reaction => reaction.key == key

def reactionIndex? (key : ReactionKey) (step : LiveStep) : Option Nat :=
  step.reactions.findIdx? fun reaction => reaction.key == key

def hasReaction (key : ReactionKey) (step : LiveStep) : Bool :=
  step.reactions.any fun reaction => reaction.key == key

def insertReaction (index : Nat) (reaction : LiveReaction) (step : LiveStep) :
    Except Violation LiveStep :=
  if step.hasReaction reaction.key then .error (.reactionPresent reaction.key step.id)
  else if index <= step.reactions.length then
    .ok { step with reactions := step.reactions.insertIdx index reaction }
  else .error (.reactionIndex index step.reactions.length)

def removeReaction (key : ReactionKey) (step : LiveStep) :
    Except Violation (LiveReaction × LiveStep) :=
  match step.reaction? key with
  | some reaction =>
      .ok (reaction, { step with
        reactions := step.reactions.eraseP fun reaction => reaction.key == key })
  | none => .error (.reactionAbsent key step.id)

def updateReaction (key : ReactionKey) (f : LiveReaction -> LiveReaction) (step : LiveStep) :
    LiveStep :=
  { step with reactions := replaceFirst (fun reaction => reaction.key == key) f step.reactions }

end LiveStep

/-!
# Tutorials

The same for the steps of a tutorial, and for reactions in whatever step they are.
-/

inductive TutorialField where
  | name
  | description
  | license
  | setup
  | tearDown
  deriving DecidableEq

namespace LiveTutorial

/-- What is kept of a tutorial when it is written, exported or compared. -/
def content (tutorial : LiveTutorial) : Tutorial where
  name := tutorial.name
  description := tutorial.description
  license := tutorial.license
  setup := tutorial.setup
  tearDown := tutorial.tearDown
  steps := tutorial.steps.map LiveStep.content

def get (tutorial : LiveTutorial) : TutorialField -> String
  | .name => tutorial.name
  | .description => tutorial.description
  | .license => tutorial.license
  | .setup => tutorial.setup
  | .tearDown => tutorial.tearDown

def set (tutorial : LiveTutorial) (field : TutorialField) (text : String) : LiveTutorial :=
  match field with
  | .name => { tutorial with name := text }
  | .description => { tutorial with description := text }
  | .license => { tutorial with license := text }
  | .setup => { tutorial with setup := text }
  | .tearDown => { tutorial with tearDown := text }

def step? (key : StepKey) (tutorial : LiveTutorial) : Option LiveStep :=
  tutorial.steps.find? fun step => step.key == key

def stepIndex? (key : StepKey) (tutorial : LiveTutorial) : Option Nat :=
  tutorial.steps.findIdx? fun step => step.key == key

def hasStep (key : StepKey) (tutorial : LiveTutorial) : Bool :=
  tutorial.steps.any fun step => step.key == key

def stepById? (id : String) (tutorial : LiveTutorial) : Option LiveStep :=
  tutorial.steps.find? fun step => step.id == id

def reaction? (key : ReactionKey) (tutorial : LiveTutorial) : Option LiveReaction :=
  tutorial.steps.findSome? fun step => step.reaction? key

def insertStep (index : Nat) (step : LiveStep) (tutorial : LiveTutorial) :
    Except Violation LiveTutorial :=
  if tutorial.hasStep step.key then .error (.stepPresent step.key)
  else if index <= tutorial.steps.length then
    .ok { tutorial with steps := tutorial.steps.insertIdx index step }
  else .error (.stepIndex index tutorial.steps.length)

def removeStep (key : StepKey) (tutorial : LiveTutorial) :
    Except Violation (LiveStep × LiveTutorial) :=
  match tutorial.step? key with
  | some step =>
      .ok (step, { tutorial with steps := tutorial.steps.eraseP fun step => step.key == key })
  | none => .error (.stepAbsent key)

def updateStep (key : StepKey) (f : LiveStep -> LiveStep) (tutorial : LiveTutorial) :
    LiveTutorial :=
  { tutorial with
    steps := replaceFirst (fun step => step.key == key) f tutorial.steps }

def updateReaction (key : ReactionKey) (f : LiveReaction -> LiveReaction)
    (tutorial : LiveTutorial) : LiveTutorial :=
  { tutorial with
    steps := replaceFirst (fun step => step.hasReaction key)
      (fun step => step.updateReaction key f) tutorial.steps }

end LiveTutorial

end TutorialKit
