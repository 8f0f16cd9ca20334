import TutorialKit.Text.Place
import TutorialKit.Tutorial
import TutorialKit.Xml.Event

/-!
# Reading a document

Events are taken in one at a time.  For every open element there is a frame that gathers what the
element stands for; when the element ends, its part is handed to the frame around it.  Elements
that are not known are passed over, but their tags and references have been checked like all
others.
-/

namespace TutorialKit

open Xml

/-- Conditions may not be nested deeper. -/
def maxConditionDepth : Nat := 256

/-!
# Errors

A fault becomes an error with the place where it is found; another root element is an error of its
own.
-/

inductive Malformation where
  | token (error : TokenError)
  | event (error : EventError)
  | contentInProlog
  | unexpectedEnd
  | prematureEnd
  | contentAfterRoot
  | tooDeep
  deriving DecidableEq

inductive ReadError where
  | malformed (detail : String) (place : Text.Place)
  | unexpectedRoot (found : String)
  deriving DecidableEq

namespace Malformation

def message : Malformation -> String
  | token error => error.message
  | event error => error.message
  | contentInProlog => "content is not allowed in prolog"
  | unexpectedEnd => "unexpected end tag"
  | prematureEnd => "premature end of document"
  | contentAfterRoot => "extra content at the end of the document"
  | tooDeep => "conditions nested deeper than " ++ toString maxConditionDepth ++ " levels"

end Malformation

namespace ReadError

def message : ReadError -> String
  | malformed detail place =>
      "XML document is not well formed: " ++ detail ++ ", line " ++ toString place.line ++
        ", column " ++ toString place.column
  | unexpectedRoot found => "Unknown root element, tutorial expected, got: " ++ found

end ReadError

/-!
# Parts

A part is what an element contributes to the one around it when it ends.
-/

inductive TextField where
  | description
  | license
  | setup
  | tearDown
  | text
  | customCode
  deriving DecidableEq

inductive Part where
  | nothing
  | text (field : TextField) (content : String)
  | step (step : Step)
  | reaction (reaction : Reaction)
  | condition (condition : Condition)

namespace Tutorial

def ofAttributes (attributes : List Attribute) : Tutorial :=
  { name := (Attribute.lookup? "name" attributes).getD "" }

/-- A later text takes the place of an earlier one; steps are added at the end. -/
def addPart (tutorial : Tutorial) : Part -> Tutorial
  | .text .description content => { tutorial with description := content }
  | .text .license content => { tutorial with license := content }
  | .text .setup content => { tutorial with setup := content }
  | .text .tearDown content => { tutorial with tearDown := content }
  | .step step => { tutorial with steps := tutorial.steps ++ [step] }
  | _ => tutorial

end Tutorial

namespace Step

def ofAttributes (attributes : List Attribute) : Step :=
  { id := (Attribute.lookup? "id" attributes).getD "" }

def addPart (step : Step) : Part -> Step
  | .text .text content => { step with text := content }
  | .text .setup content => { step with setup := content }
  | .text .tearDown content => { step with tearDown := content }
  | .reaction reaction => { step with reactions := step.reactions ++ [reaction] }
  | _ => step

end Step

namespace Reaction

def ofAttributes (attributes : List Attribute) : Reaction where
  trigger :=
    ((Attribute.lookup? "triggerType" attributes).map Trigger.ofLiteralOrDefault).getD default
  response :=
    ((Attribute.lookup? "responseType" attributes).map Response.ofLiteralOrDefault).getD default

def addPart (reaction : Reaction) : Part -> Reaction
  | .text .customCode content => { reaction with code := content }
  | .condition condition => { reaction with condition := some condition }
  | _ => reaction

def addAttributes (reaction : Reaction) (name : String) (attributes : List Attribute) : Reaction :=
  if name = "option" then
    { reaction with option := (Attribute.lookup? "name" attributes).getD reaction.option }
  else if name = "nextStep" then
    { reaction with nextStep := (Attribute.lookup? "id" attributes).getD reaction.nextStep }
  else reaction

end Reaction

/-!
# Frames

Which elements count depends on the frame that they stand in.
-/

/--
An open element inside the root element.  A frame that takes in no elements counts those that are
open inside it.
-/
inductive Frame where
  | step (step : Step)
  | reaction (reaction : Reaction)
  | composed (composition : Composition) (children : List Condition)
  | negation (child : Option Condition)
  | leaf (leaf : Leaf) (nested : Nat)
  | text (field : TextField) (content : String) (nested : Nat)
  | ignored (nested : Nat)

namespace Leaf

def ofElement? (name : String) (attributes : List Attribute) : Option Leaf :=
  let value (key : String) := (Attribute.lookup? key attributes).getD ""
  if name = "waitForEvent" then some (.event (value "receiverName") (value "eventName"))
  else if name = "waitForProperty" then
    some (.property (value "objectName") (value "propertyName") (value "value"))
  else if name = "waitForSignal" then some (.signal (value "emitterName") (value "signalName"))
  else if name = "waitForWindow" then some (.window (value "windowObjectName"))
  else if name = "waitForStepActivation" then some .stepActivation
  else none

end Leaf

namespace Frame

def isCondition : Frame -> Bool
  | composed .. => true
  | negation _ => true
  | leaf .. => true
  | _ => false

def inTutorial (name : String) (attributes : List Attribute) : Frame :=
  if name = "description" then text .description "" 0
  else if name = "license" then text .license "" 0
  else if name = "setup" then text .setup "" 0
  else if name = "tearDown" then text .tearDown "" 0
  else if name = "step" then step (Step.ofAttributes attributes)
  else ignored 0

def inStep (name : String) (attributes : List Attribute) : Frame :=
  if name = "text" then text .text "" 0
  else if name = "setup" then text .setup "" 0
  else if name = "tearDown" then text .tearDown "" 0
  else if name = "reaction" then reaction (Reaction.ofAttributes attributes)
  else ignored 0

def inCondition (name : String) (attributes : List Attribute) : Frame :=
  if name = "waitForComposed" then
    composed
      (((Attribute.lookup? "compositionType" attributes).map
        Composition.ofLiteralOrDefault).getD default) []
  else if name = "waitForNot" then negation none
  else
    match Leaf.ofElement? name attributes with
    | some l => leaf l 0
    | none => ignored 0

def inReaction (name : String) (attributes : List Attribute) : Frame :=
  if name = "customCode" then text .customCode "" 0 else inCondition name attributes

def enter (name : String) (attributes : List Attribute) : Frame -> Frame × Option Frame
  | step s => (step s, some (inStep name attributes))
  | reaction r => (reaction (r.addAttributes name attributes), some (inReaction name attributes))
  | composed composition children =>
      (composed composition children, some (inCondition name attributes))
  | negation child => (negation child, some (inCondition name attributes))
  | leaf l nested => (leaf l (nested + 1), none)
  | text field content nested => (text field content (nested + 1), none)
  | ignored nested => (ignored (nested + 1), none)

def leave? : Frame -> Option Frame
  | leaf l (nested + 1) => some (leaf l nested)
  | text field content (nested + 1) => some (text field content nested)
  | ignored (nested + 1) => some (ignored nested)
  | _ => none

def part : Frame -> Part
  | step s => .step s
  | reaction r => .reaction r
  | composed composition children => .condition (.composed composition children)
  | negation child => .condition (.negation child)
  | leaf l _ => .condition (.leaf l)
  | text field content _ => .text field content
  | ignored _ => .nothing

/-- The last child of a negation counts; all children of a composed condition do. -/
def addPart (frame : Frame) (part : Part) : Frame :=
  match frame, part with
  | step s, part => step (s.addPart part)
  | reaction r, part => reaction (r.addPart part)
  | composed composition children, .condition condition =>
      composed composition (children ++ [condition])
  | negation _, .condition condition => negation (some condition)
  | frame, _ => frame

def addText (content : String) : Frame -> Frame
  | text field held nested => text field (held ++ content) nested
  | frame => frame

end Frame

/-!
# States

Reading goes through the prolog, the root element and the epilog.
-/

inductive ReadState where
  | prolog
  | inside (tutorial : Tutorial) (frames : List Frame)
  | epilog (tutorial : Tutorial)

inductive ReadFault where
  | malformed (cause : Malformation)
  | unexpectedRoot (found : String)

namespace ReadState

def openRoot (name : String) (attributes : List Attribute) : Except ReadFault ReadState :=
  if name = "tutorial" then .ok (inside (Tutorial.ofAttributes attributes) [])
  else .error (.unexpectedRoot name)

/-- Puts the frame of an element on the others; a condition only down to a certain depth. -/
def push (tutorial : Tutorial) (frames : List Frame) (frame : Frame) : Except ReadFault ReadState :=
  if frame.isCondition && frames.countP Frame.isCondition == maxConditionDepth then
    .error (.malformed .tooDeep)
  else .ok (inside tutorial (frame :: frames))

def openElement (tutorial : Tutorial) (frames : List Frame) (name : String)
    (attributes : List Attribute) : Except ReadFault ReadState :=
  match frames with
  | [] => push tutorial [] (Frame.inTutorial name attributes)
  | top :: below =>
      match top.enter name attributes with
      | (top, none) => .ok (inside tutorial (top :: below))
      | (top, some above) => push tutorial (top :: below) above

def closeElement (tutorial : Tutorial) : List Frame -> ReadState
  | [] => epilog tutorial
  | top :: below =>
      match top.leave? with
      | some top => inside tutorial (top :: below)
      | none =>
          match below with
          | [] => inside (tutorial.addPart top.part) []
          | around :: rest => inside tutorial (around.addPart top.part :: rest)

def addText (content : String) : List Frame -> List Frame
  | [] => []
  | top :: below => top.addText content :: below

def inProlog : Event -> Except ReadFault ReadState
  | .start name attributes => openRoot name attributes
  | .empty name attributes => do
      match <- openRoot name attributes with
      | inside tutorial _ => pure (epilog tutorial)
      | state => pure state
  | .close => .error (.malformed .unexpectedEnd)
  | .text content =>
      if Xml.isBlank content.toList then .ok prolog else .error (.malformed .contentInProlog)
  | .characterData _ => .error (.malformed .contentInProlog)
  | .reference _ => .error (.malformed .contentInProlog)
  | _ => .ok prolog

def inRoot (tutorial : Tutorial) (frames : List Frame) : Event -> Except ReadFault ReadState
  | .start name attributes => openElement tutorial frames name attributes
  | .empty name attributes => do
      match <- openElement tutorial frames name attributes with
      | inside tutorial frames => pure (closeElement tutorial frames)
      | state => pure state
  | .close => .ok (closeElement tutorial frames)
  | .text content => .ok (inside tutorial (addText content frames))
  | .characterData content => .ok (inside tutorial (addText content frames))
  | .reference character => .ok (inside tutorial (addText (String.ofList [character]) frames))
  | _ => .ok (inside tutorial frames)

def inEpilog (tutorial : Tutorial) : Event -> Except ReadFault ReadState
  | .text content =>
      if Xml.isBlank content.toList then .ok (epilog tutorial)
      else .error (.malformed .contentAfterRoot)
  | .comment => .ok (epilog tutorial)
  | .instruction => .ok (epilog tutorial)
  | _ => .error (.malformed .contentAfterRoot)

def take (state : ReadState) (event : Event) : Except ReadFault ReadState :=
  match state with
  | prolog => inProlog event
  | inside tutorial frames => inRoot tutorial frames event
  | epilog tutorial => inEpilog tutorial event

def takeToken (state : ReadState) (token : Token) : Except ReadFault ReadState :=
  match Event.ofToken token with
  | .error error => .error (.malformed (.event error))
  | .ok event => state.take event

def finish : ReadState -> Except ReadFault Tutorial
  | epilog tutorial => .ok tutorial
  | _ => .error (.malformed .prematureEnd)

/-- A fault is found just after the token that it belongs to. -/
def run (state : ReadState) : List (Located Token) -> Ending -> Except (Located ReadFault) Tutorial
  | [], .failed error offset => .error ⟨.malformed (.token error), offset⟩
  | [], .complete offset => state.finish.mapError (⟨·, offset⟩)
  | token :: rest, ending =>
      match state.takeToken token.value with
      | .error fault => .error ⟨fault, token.offset⟩
      | .ok state => run state rest ending

end ReadState

namespace ReadError

def ofFault (cs : List Char) : Located ReadFault -> ReadError
  | ⟨.malformed cause, offset⟩ => malformed cause.message (Text.Place.ofOffset cs offset)
  | ⟨.unexpectedRoot found, _⟩ => unexpectedRoot found

end ReadError

namespace Tutorial

def readChars (cs : List Char) : Except ReadError Tutorial :=
  let stream := Xml.tokens cs
  (ReadState.prolog.run stream.tokens stream.ending).mapError (ReadError.ofFault cs)

def ofXml (text : String) : Except ReadError Tutorial :=
  readChars text.toList

end Tutorial

end TutorialKit
