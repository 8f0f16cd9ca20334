import TutorialKit.Document.Elements
import TutorialKit.Text.Quoted
import TutorialKit.Xml.Writer

/-!
# Written documents

A document is the portions before its steps, of the steps, and behind them; together they are the
declaration, the element of the tutorial and a line break.  A document that is handed to a sink is
written piece by piece, and if the sink fails, the error names the step that was being written.
-/

namespace TutorialKit

open Xml

/-- A part of a written document; `step` is the id of the step that it is the text of. -/
structure Portion where
  step : Option String
  text : List Char
  deriving DecidableEq

structure WriteError where
  step : Option String
  reason : String
  deriving DecidableEq

namespace WriteError

def message (error : WriteError) : String :=
  "Failed to write tutorial XML: " ++
    (match error.step with
      | none => ""
      | some id => "step " ++ Text.Quoted.encode id ++ ": ") ++
    error.reason

end WriteError

namespace Tutorial

def declaration : List Char :=
  "<?xml version=\"1.0\" encoding=\"UTF-8\"?>".toList

def headPortion (tutorial : Tutorial) : Portion where
  step := none
  text := declaration ++ lineBreak 0 ++ startTag "tutorial" tutorial.attributes ++
    Element.writeAll 1 tutorial.textElements

def stepPortion (step : Step) : Portion where
  step := some step.id
  text := step.toElement.write 1

def tailPortion : Portion where
  step := none
  text := lineBreak 0 ++ endTag "tutorial" ++ ['\n']

def portions (tutorial : Tutorial) : List Portion :=
  tutorial.headPortion :: tutorial.steps.map stepPortion ++ [tailPortion]

def toXmlChars (tutorial : Tutorial) : List Char :=
  tutorial.portions.flatMap Portion.text

def toXml (tutorial : Tutorial) : String :=
  String.ofList tutorial.toXmlChars

theorem flatMap_stepPortion (steps : List Step) :
    (steps.map stepPortion).flatMap Portion.text =
      Element.writeAll 1 (steps.map Step.toElement) := by
  induction steps with
  | nil => rfl
  | cons step rest ih =>
      rw [List.map_cons, List.flatMap_cons, ih, List.map_cons, Element.writeAll_cons]
      rfl

theorem toXmlChars_eq_write (tutorial : Tutorial) :
    tutorial.toXmlChars = declaration ++ tutorial.toElement.write 0 ++ ['\n'] := by
  simp [toXmlChars, portions, headPortion, tailPortion, toElement, Element.writeAll_append,
    flatMap_stepPortion]

end Tutorial

/-!
# Delivery to a sink

A sink takes what it has room for and then fails for a reason of its own.
-/

structure Delivery where
  taken : Text.Bytes
  failure : Option WriteError
  deriving DecidableEq

/-- Writes what belongs to a step, or to none; if that fails, the error says so. -/
def writeIn (step : Option String) (part : Writing String Unit) : Writing WriteError Unit :=
  ExceptT.adapt (fun reason => ⟨step, reason⟩) part

namespace Step

def deliverAll : List Step -> Writing WriteError Unit
  | [] => pure ()
  | step :: rest => do
      writeIn (some step.id) (.element step.toElement)
      deliverAll rest

end Step

namespace Tutorial

def deliver (tutorial : Tutorial) : Writing WriteError Unit := do
  writeIn none do
    Writing.declaration "xml version=\"1.0\" encoding=\"UTF-8\""
    Writing.startTag "tutorial" tutorial.attributes
    Writing.elements tutorial.textElements
  Step.deliverAll tutorial.steps
  writeIn none do
    Writing.endTag "tutorial"
    Writing.put ['\n']

def writeLimited (reason : String) (room : Nat) (tutorial : Tutorial) : Delivery :=
  let (result, writer) := tutorial.deliver.run.run { sink := { room, reason } }
  { taken := writer.sink.taken
    failure := match result with
      | .ok _ => none
      | .error error => some error }

end Tutorial

end TutorialKit
