import TutorialKit.Tutorial
import TutorialKit.Text.Lines

/-!
# Outlines

A condensed view of a tutorial: every text is cut to its first line and every condition described
in one line.
-/

namespace TutorialKit

structure ReactionOutline where
  triggerType : Trigger
  responseType : Response
  trigger : String
  response : String
  conditionNodes : Nat
  nextStepMissing : Bool
  deriving DecidableEq

structure StepOutline where
  id : String
  text : String
  reactions : List ReactionOutline
  deriving DecidableEq

structure Outline where
  name : String
  description : String
  steps : List StepOutline
  deriving DecidableEq

namespace Text

/-- The first line of a text, with a sign that there are more. -/
def firstLine (text : String) : String :=
  match lines text with
  | [] => ""
  | [only] => only
  | first :: _ => first ++ " …"

end Text

namespace Leaf

def describe : Leaf -> String
  | event receiver name => "event " ++ name ++ " in " ++ receiver
  | property object name value => "property " ++ object ++ "." ++ name ++ " == " ++ value
  | signal emitter name => "signal " ++ name ++ " by " ++ emitter
  | window name => "window " ++ name ++ " shown"
  | stepActivation => "step activation"

end Leaf

namespace Composition

def word : Composition -> String
  | all => "and"
  | any => "or"

end Composition

namespace Condition

mutual

def describe : Condition -> String
  | leaf l => l.describe
  | composed composition children =>
      composition.word ++ "(" ++ ", ".intercalate (describeAll children) ++ ")"
  | negation none => "not()"
  | negation (some child) => "not(" ++ describe child ++ ")"

def describeAll : List Condition -> List String
  | [] => []
  | condition :: rest => describe condition :: describeAll rest

end

end Condition

namespace Reaction

def outline (tutorial : Tutorial) (reaction : Reaction) : ReactionOutline where
  triggerType := reaction.trigger
  responseType := reaction.response
  trigger :=
    match reaction.trigger with
    | .optionSelected => reaction.option
    | .conditionMet => (reaction.condition.map Condition.describe).getD ""
  response :=
    match reaction.response with
    | .nextStep => reaction.nextStep
    | .customCode => Text.firstLine reaction.code
  conditionNodes := (reaction.condition.map Condition.nodeCount).getD 0
  nextStepMissing :=
    reaction.response == .nextStep && reaction.nextStep != "" &&
      !tutorial.hasStep reaction.nextStep

end Reaction

namespace Tutorial

def stepOutline (tutorial : Tutorial) (step : Step) : StepOutline where
  id := step.id
  text := Text.firstLine step.text
  reactions := step.reactions.map (Reaction.outline tutorial)

def outline (tutorial : Tutorial) : Outline where
  name := tutorial.name
  description := tutorial.description
  steps := tutorial.steps.map tutorial.stepOutline

end Tutorial

namespace Outline

def total (counts : List Nat) : Nat :=
  counts.foldr (· + ·) 0

def reactionCount (outline : Outline) : Nat :=
  total (outline.steps.map fun step => step.reactions.length)

def conditionNodeCount (outline : Outline) : Nat :=
  total ((outline.steps.flatMap StepOutline.reactions).map ReactionOutline.conditionNodes)

end Outline

end TutorialKit
