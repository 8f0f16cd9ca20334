import TutorialKit.Xml.Token

/-!
# Events

An event is a token whose attributes and references have been resolved.  This is where faults
inside a tag or a reference come to light.
-/

namespace TutorialKit
namespace Xml

inductive Event where
  | start (name : String) (attributes : List Attribute)
  | empty (name : String) (attributes : List Attribute)
  | close
  | text (content : String)
  | characterData (content : String)
  | reference (character : Char)
  | comment
  | instruction
  | declaration
  | doctype
  deriving DecidableEq

inductive EventError where
  | attributes (error : AttributeError)
  | reference (error : ReferenceError)
  deriving DecidableEq

namespace EventError

def message : EventError -> String
  | attributes error => error.message
  | reference (.number error) => error.message
  | reference (.undeclared name) => "entity '" ++ String.ofList name ++ "' not declared"

end EventError

namespace Event

def elementName (content : List Char) : String :=
  String.ofList (tagName content)

def ofToken : Token -> Except EventError Event
  | .start content =>
      ((attributesOf content).map (start (elementName content))).mapError .attributes
  | .empty content =>
      ((attributesOf content).map (empty (elementName content))).mapError .attributes
  | .close => .ok close
  | .text content => .ok (text (String.ofList content))
  | .characterData content => .ok (characterData (String.ofList content))
  | .reference content => ((resolve content).map reference).mapError .reference
  | .comment => .ok comment
  | .instruction => .ok instruction
  | .declaration => .ok declaration
  | .doctype => .ok doctype

end Event

end Xml
end TutorialKit
