import TutorialKit.Editing.LiveTutorial

/-!
# Changes

Whatever is done to an open document is reported as a list of changes, in order.  A change belongs
to the tutorial, to a step or to a reaction, and goes to those who listen to it there.
-/

namespace TutorialKit

inductive Entity where
  | tutorial
  | step (key : StepKey)
  | reaction (key : ReactionKey)
  deriving DecidableEq

inductive Change where
  | tutorialData
  | stepAdded (key : StepKey) (index : Nat)
  | stepRemoved (key : StepKey)
  | stepData (key : StepKey)
  | reactionAdded (step : StepKey) (key : ReactionKey) (index : Nat)
  | reactionRemoved (step : StepKey) (key : ReactionKey)
  | reactionData (key : ReactionKey)
  deriving DecidableEq

namespace Change

def entity : Change -> Entity
  | tutorialData => .tutorial
  | stepAdded .. => .tutorial
  | stepRemoved _ => .tutorial
  | stepData key => .step key
  | reactionAdded step .. => .step step
  | reactionRemoved step _ => .step step
  | reactionData key => .reaction key

end Change

/-- The listeners of the entities of a document, attached or not. -/
structure Watchers where
  registries : List (Entity × Listeners Label) := []
  deriving Inhabited

namespace Watchers

def registry (entity : Entity) (watchers : Watchers) : Listeners Label :=
  (watchers.registries.lookup entity).getD .none

def setRegistry (entity : Entity) (registry : Listeners Label) (watchers : Watchers) : Watchers :=
  { registries := (entity, registry) :: watchers.registries.filter fun entry => entry.1 != entity }

def subscribe (entity : Entity) (label : Label) (watchers : Watchers) : Watchers :=
  watchers.setRegistry entity ((watchers.registry entity).subscribe label)

def unsubscribe (entity : Entity) (id : Nat) (watchers : Watchers) : Watchers :=
  watchers.setRegistry entity ((watchers.registry entity).unsubscribe id)

def deliver (changes : List Change) (watchers : Watchers) : List (Label × Change) :=
  changes.flatMap fun change => (watchers.registry change.entity).notify change

theorem deliver_append (changes more : List Change) (watchers : Watchers) :
    watchers.deliver (changes ++ more) = watchers.deliver changes ++ watchers.deliver more := by
  simp [deliver]

end Watchers

end TutorialKit
