import TutorialKit.Script.Layout
import TutorialKit.Script.Problem

/-!
# Statements

The statements inside the function that sets up a step.  They create options and conditions,
give them their details and register them with the step.  An object is named by a variable.
-/

namespace TutorialKit
namespace Script

inductive ObjectKind where
  | event
  | property
  | signal
  | window
  | stepActivation
  | composed (composition : Composition)
  | negation
  deriving DecidableEq

/-- What happens when an option is selected or a condition is met. -/
inductive Target where
  | step (id : String)
  | handler (function : String)
  deriving DecidableEq

inductive Statement where
  | blank
  | problem (problem : Problem)
  | newOption (object caption : String)
  | newCondition (object : String) (kind : ObjectKind)
  | setEvent (object receiver event : String)
  | setProperty (object owner property value : String)
  | setSignal (object emitter signal : String)
  | setWindow (object window : String)
  | setStep (object : String)
  | addChild (object child : String)
  | setNegated (object child : String)
  | addOption (object : String) (target : Target)
  | addCondition (object : String) (target : Target)
  deriving DecidableEq

namespace ObjectKind

def className : ObjectKind -> String
  | event => "WaitForEvent"
  | property => "WaitForProperty"
  | signal => "WaitForSignal"
  | window => "WaitForWindow"
  | stepActivation => "WaitForStepActivation"
  | composed composition => "WaitFor" ++ composition.literal
  | negation => "WaitForNot"

end ObjectKind

namespace Target

def arguments : Target -> String
  | step id => quoted id
  | handler function => "self, \"" ++ function ++ "()\""

end Target

namespace Statement

def findObject (name : String) : String :=
  "ktutorial.findObject(" ++ quoted name ++ ")"

def code : Statement -> String
  | blank => ""
  | problem p => Problem.marker ++ p.message
  | newOption object caption =>
      object ++ " = ktutorial.newOption(t.i18nc(\"@action Tutorial option\", " ++
        quoted caption ++ "));"
  | newCondition object kind =>
      object ++ " = ktutorial.newWaitFor(\"" ++ kind.className ++ "\");"
  | setEvent object receiver event =>
      object ++ ".setEvent(" ++ findObject receiver ++ ", " ++ quoted event ++ ");"
  | setProperty object owner property value =>
      object ++ ".setProperty(" ++ findObject owner ++ ", " ++ quoted property ++ ", " ++
        value ++ ");"
  | setSignal object emitter signal =>
      object ++ ".setSignal(" ++ findObject emitter ++ ", " ++ quoted signal ++ ");"
  | setWindow object window => object ++ ".setWindowObjectName(" ++ quoted window ++ ");"
  | setStep object => object ++ ".setStep(tutorial, step);"
  | addChild object child => object ++ ".add(" ++ child ++ ");"
  | setNegated object child => object ++ ".setNegatedWaitFor(" ++ child ++ ");"
  | addOption object target => "step.addOption(" ++ object ++ ", " ++ target.arguments ++ ");"
  | addCondition object target => "step.addWaitFor(" ++ object ++ ", " ++ target.arguments ++ ");"

/-- A blank line is not indented. -/
def text (level : Nat) : Statement -> String
  | blank => "\n"
  | statement => line level statement.code

end Statement

end Script
end TutorialKit
