import TutorialKit.Tutorial
import TutorialKit.Xml.Element

/-!
# The elements of a document

What stands for a tutorial in a document.  Texts that are empty are left out; the two types of a
reaction are always given.
-/

namespace TutorialKit

open Xml

namespace Leaf

def attributes : Leaf -> List Attribute
  | event receiver name =>
      Attribute.optional "receiverName" receiver ++ Attribute.optional "eventName" name
  | property object name value =>
      Attribute.optional "objectName" object ++ Attribute.optional "propertyName" name ++
        Attribute.optional "value" value
  | signal emitter name =>
      Attribute.optional "emitterName" emitter ++ Attribute.optional "signalName" name
  | window name => Attribute.optional "windowObjectName" name
  | stepActivation => []

end Leaf

namespace Condition

mutual

def toElement : Condition -> Element
  | leaf l => .empty l.kindName l.attributes
  | composed composition [] => .empty "waitForComposed" [⟨"compositionType", composition.literal⟩]
  | composed composition (first :: rest) =>
      .parent "waitForComposed" [⟨"compositionType", composition.literal⟩]
        (toElement first :: toElements rest)
  | negation none => .empty "waitForNot" []
  | negation (some child) => .parent "waitForNot" [] [toElement child]

def toElements : List Condition -> List Element
  | [] => []
  | condition :: rest => toElement condition :: toElements rest

end

end Condition

namespace Reaction

def toElement (reaction : Reaction) : Element :=
  .parent "reaction"
    [⟨"triggerType", reaction.trigger.literal⟩, ⟨"responseType", reaction.response.literal⟩]
    ((if reaction.option = "" then [] else [.empty "option" [⟨"name", reaction.option⟩]]) ++
      reaction.condition.toList.map Condition.toElement ++
      Element.optionalText "customCode" reaction.code ++
      (if reaction.nextStep = "" then [] else [.empty "nextStep" [⟨"id", reaction.nextStep⟩]]))

end Reaction

namespace Step

def toElement (step : Step) : Element :=
  .parent "step" (Attribute.optional "id" step.id)
    (Element.optionalText "text" step.text ++
      Element.optionalText "setup" step.setup ++
      Element.optionalText "tearDown" step.tearDown ++
      step.reactions.map Reaction.toElement)

end Step

namespace Tutorial

def attributes (tutorial : Tutorial) : List Attribute :=
  Attribute.optional "name" tutorial.name

/-- The elements of a tutorial that come before its steps. -/
def textElements (tutorial : Tutorial) : List Element :=
  Element.optionalText "description" tutorial.description ++
    Element.optionalText "license" tutorial.license ++
    Element.optionalText "setup" tutorial.setup ++
    Element.optionalText "tearDown" tutorial.tearDown

def toElement (tutorial : Tutorial) : Element :=
  .parent "tutorial" tutorial.attributes
    (tutorial.textElements ++ tutorial.steps.map Step.toElement)

end Tutorial

end TutorialKit
