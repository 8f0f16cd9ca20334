import TutorialKit.Editing.Change

/-!
# Actions

An action is one reversible edit of a tutorial.  It is carried out and taken back in turn; while a
step or a reaction is not in the tutorial, the action that took it out or is to put it in holds it.
An action that is refused changes nothing.
-/

namespace TutorialKit

inductive Direction where
  | redo
  | undo
  deriving DecidableEq

namespace Direction

def opposite : Direction -> Direction
  | redo => undo
  | undo => redo

end Direction

/-- `held` is the step or reaction that the action owns. -/
inductive Action where
  | setTutorial (field : TutorialField) (text : String)
  | setStep (key : StepKey) (field : StepField) (text : String)
  | setReaction (key : ReactionKey) (value : ReactionValue)
  | addStep (key : StepKey) (index : Option Nat) (held : Option LiveStep)
  | removeStep (key : StepKey) (index : Nat) (held : Option LiveStep)
  | addReaction (step : StepKey) (key : ReactionKey) (index : Option Nat)
      (held : Option LiveReaction)
  | removeReaction (step : StepKey) (key : ReactionKey) (index : Nat)
      (held : Option LiveReaction)

inductive Refusal where
  | stepNotFound (key : StepKey)
  | reactionNotFound (key : ReactionKey)
  | nothingToApply (label : String)
  | indexOutOfRange (index length : Nat)
  deriving DecidableEq

namespace Refusal

def message : Refusal -> String
  | stepNotFound key => key.describe ++ " is not part of the tutorial"
  | reactionNotFound key => key.describe ++ " is not part of the tutorial"
  | nothingToApply label => label ++ ": nothing to apply"
  | indexOutOfRange index length =>
      "index " ++ toString index ++ " is out of range for a container of " ++ toString length ++
        " elements"

end Refusal

inductive Fault where
  | refused (refusal : Refusal)
  | violated (violation : Violation)
  deriving DecidableEq

namespace TutorialField

def label : TutorialField -> String
  | name => "Set tutorial name"
  | description => "Set tutorial description"
  | license => "Set tutorial license"
  | setup => "Set tutorial setup code"
  | tearDown => "Set tutorial tear down code"

end TutorialField

namespace StepField

def label : StepField -> String
  | id => "Set step id"
  | text => "Set step text"
  | setup => "Set step setup code"
  | tearDown => "Set step tear down code"

end StepField

namespace ReactionValue

def label : ReactionValue -> String
  | trigger _ => "Set reaction trigger type"
  | option _ => "Set reaction option name"
  | condition _ => "Set reaction condition to wait for"
  | response _ => "Set reaction response type"
  | nextStep _ => "Set reaction next step id"
  | code _ => "Set reaction custom code"

end ReactionValue

structure Done where
  tutorial : LiveTutorial
  action : Action
  changes : List Change

namespace Action

def label : Action -> String
  | setTutorial field _ => field.label
  | setStep _ field _ => field.label
  | setReaction _ value => value.label
  | addStep .. => "Add step"
  | removeStep .. => "Remove step"
  | addReaction .. => "Add reaction"
  | removeReaction .. => "Remove reaction"

/-!
# Putting in and taking out

Only what the action holds is put in, and what is taken out is given back with its place.
-/

def violationToFault {α : Type} (result : Except Violation α) : Except Fault α :=
  result.mapError .violated

def findStep (key : StepKey) (tutorial : LiveTutorial) : Except Fault LiveStep :=
  match tutorial.step? key with
  | some step => .ok step
  | none => .error (.refused (.stepNotFound key))

/-- What an action holds, if `index` is a place in a list of `length` elements. -/
def takeHeld {α : Type} (label : String) (index length : Nat) (held : Option α) :
    Except Fault α :=
  if index <= length then
    match held with
    | some entity => .ok entity
    | none => .error (.refused (.nothingToApply label))
  else .error (.refused (.indexOutOfRange index length))

def attachStep (label : String) (index : Nat) (held : Option LiveStep)
    (tutorial : LiveTutorial) : Except Fault (LiveTutorial × List Change) := do
  let step <- takeHeld label index tutorial.steps.length held
  let attached <- violationToFault (tutorial.insertStep index step)
  pure (attached, [.stepAdded step.key index])

def detachStep (key : StepKey) (tutorial : LiveTutorial) :
    Except Fault (LiveTutorial × LiveStep × Nat × List Change) :=
  match tutorial.stepIndex? key with
  | none => .error (.refused (.stepNotFound key))
  | some index => do
      let (step, detached) <- violationToFault (tutorial.removeStep key)
      pure (detached, step, index, [.stepRemoved key])

def attachReaction (label : String) (key : StepKey) (index : Option Nat)
    (held : Option LiveReaction) (tutorial : LiveTutorial) :
    Except Fault (LiveTutorial × List Change) := do
  let step <- findStep key tutorial
  let index := index.getD step.reactions.length
  let reaction <- takeHeld label index step.reactions.length held
  let attached <- violationToFault (step.insertReaction index reaction)
  pure (tutorial.updateStep key fun _ => attached, [.reactionAdded key reaction.key index])

def detachReaction (stepKey : StepKey) (key : ReactionKey) (tutorial : LiveTutorial) :
    Except Fault (LiveTutorial × LiveReaction × Nat × List Change) := do
  let step <- findStep stepKey tutorial
  match step.reactionIndex? key with
  | none => .error (.refused (.reactionNotFound key))
  | some index =>
      let (reaction, detached) <- violationToFault (step.removeReaction key)
      pure (tutorial.updateStep stepKey fun _ => detached, reaction, index,
        [.reactionRemoved stepKey key])

/-!
# Running

A run comes to the tutorial, the action as it is for the next run, and the changes to report.
-/

/-- A text is exchanged with the one that the action keeps, in both directions. -/
def runSetTutorial (field : TutorialField) (text : String) (tutorial : LiveTutorial) : Done where
  tutorial := tutorial.set field text
  action := setTutorial field (tutorial.get field)
  changes := [.tutorialData]

def runSetStep (key : StepKey) (field : StepField) (text : String) (tutorial : LiveTutorial) :
    Except Fault Done := do
  let step <- findStep key tutorial
  pure
    { tutorial := tutorial.updateStep key fun step => step.set field text
      action := setStep key field (step.get field)
      changes := [.stepData key] }

def runSetReaction (key : ReactionKey) (value : ReactionValue) (tutorial : LiveTutorial) :
    Except Fault Done :=
  match tutorial.reaction? key with
  | none => .error (.refused (.reactionNotFound key))
  | some reaction =>
      .ok
        { tutorial := tutorial.updateReaction key fun reaction => (reaction.exchange value).1
          action := setReaction key (reaction.exchange value).2
          changes := [.reactionData key] }

def run (direction : Direction) (action : Action) (tutorial : LiveTutorial) : Except Fault Done :=
  match action, direction with
  | setTutorial field text, _ => .ok (runSetTutorial field text tutorial)
  | setStep key field text, _ => runSetStep key field text tutorial
  | setReaction key value, _ => runSetReaction key value tutorial
  | addStep key index held, .redo => do
      let (tutorial, changes) <-
        attachStep "Add step" (index.getD tutorial.steps.length) held tutorial
      pure ⟨tutorial, addStep key index none, changes⟩
  | addStep key index _, .undo => do
      let (tutorial, step, _, changes) <- detachStep key tutorial
      pure ⟨tutorial, addStep key index (some step), changes⟩
  | removeStep key _ _, .redo => do
      let (tutorial, step, index, changes) <- detachStep key tutorial
      pure ⟨tutorial, removeStep key index (some step), changes⟩
  | removeStep key index held, .undo => do
      let (tutorial, changes) <- attachStep "Remove step" index held tutorial
      pure ⟨tutorial, removeStep key index none, changes⟩
  | addReaction step key index held, .redo => do
      let (tutorial, changes) <- attachReaction "Add reaction" step index held tutorial
      pure ⟨tutorial, addReaction step key index none, changes⟩
  | addReaction step key index _, .undo => do
      let (tutorial, reaction, _, changes) <- detachReaction step key tutorial
      pure ⟨tutorial, addReaction step key index (some reaction), changes⟩
  | removeReaction step key _ _, .redo => do
      let (tutorial, reaction, index, changes) <- detachReaction step key tutorial
      pure ⟨tutorial, removeReaction step key index (some reaction), changes⟩
  | removeReaction step key index held, .undo => do
      let (tutorial, changes) <- attachReaction "Remove reaction" step (some index) held tutorial
      pure ⟨tutorial, removeReaction step key index none, changes⟩

end Action

end TutorialKit
