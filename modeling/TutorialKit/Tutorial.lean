import TutorialKit.Condition
import TutorialKit.Text.CamelCase

/-!
# Tutorials

A tutorial is a list of steps, and a step a list of reactions.  Two tutorials are the same when
all their texts, conditions and lists are.
-/

namespace TutorialKit

structure Reaction where
  trigger : Trigger := default
  option : String := ""
  condition : Option Condition := none
  response : Response := default
  nextStep : String := ""
  code : String := ""
  deriving DecidableEq, Inhabited

structure Step where
  id : String := ""
  text : String := ""
  setup : String := ""
  tearDown : String := ""
  reactions : List Reaction := []
  deriving DecidableEq, Inhabited

structure Tutorial where
  name : String := ""
  description : String := ""
  license : String := ""
  setup : String := ""
  tearDown : String := ""
  steps : List Step := []
  deriving DecidableEq, Inhabited

namespace Tutorial

/-- The identifier that a tutorial's name stands for. -/
def id (tutorial : Tutorial) : String :=
  Text.lowerCamelCase tutorial.name

def hasStep (tutorial : Tutorial) (id : String) : Bool :=
  tutorial.steps.any fun step => step.id == id

end Tutorial

end TutorialKit
