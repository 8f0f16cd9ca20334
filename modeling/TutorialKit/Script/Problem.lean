import TutorialKit.Condition

/-!
# Problems of a tutorial

A tutorial may be exported before it is complete.  What is missing stands in the script as a
comment that begins with a marker.
-/

namespace TutorialKit

inductive Problem where
  | tutorialName
  | tutorialDescription
  | stepId
  | stepText
  | conditionUnset
  | optionName
  | nextStep
  | handlerCode
  | eventReceiver
  | eventName
  | propertyObject
  | propertyName
  | propertyValue
  | signalEmitter
  | signalName
  | windowName
  | negatedUnset
  deriving DecidableEq

namespace Problem

def message : Problem -> String
  | tutorialName => "Tutorial without name!"
  | tutorialDescription => "Tutorial without description!"
  | stepId => "Step without id!"
  | stepText => "Step without text!"
  | conditionUnset => "WaitFor not set!"
  | optionName => "Option without name!"
  | nextStep => "Next step id not set!"
  | handlerCode => "No code set!"
  | eventReceiver => "WaitForEvent without receiver name!"
  | eventName => "WaitForEvent without event name!"
  | propertyObject => "WaitForProperty without object name!"
  | propertyName => "WaitForProperty without property name!"
  | propertyValue => "WaitForProperty without value!"
  | signalEmitter => "WaitForSignal without emitter name!"
  | signalName => "WaitForSignal without signal name!"
  | windowName => "WaitForWindow without window object name!"
  | negatedUnset => "WaitForNot without negated WaitFor!"

def marker : String := "//Error: "

end Problem

namespace Leaf

/-- The first detail that the leaf lacks. -/
def problem? : Leaf -> Option Problem
  | event receiver name =>
      if receiver = "" then some .eventReceiver
      else if name = "" then some .eventName
      else none
  | property object name value =>
      if object = "" then some .propertyObject
      else if name = "" then some .propertyName
      else if value = "" then some .propertyValue
      else none
  | signal emitter name =>
      if emitter = "" then some .signalEmitter
      else if name = "" then some .signalName
      else none
  | window name => if name = "" then some .windowName else none
  | stepActivation => none

end Leaf

end TutorialKit
