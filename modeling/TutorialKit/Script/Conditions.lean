import TutorialKit.Script.Scope
import TutorialKit.Script.Statement
import TutorialKit.Text.CamelCase

/-!
# Statements for conditions

A condition becomes the statements that create its objects, children before the condition that
holds them.  A node that lacks something becomes a problem instead and has no object; the nodes
above it do without it.
-/

namespace TutorialKit
namespace Script

structure Emitted where
  scope : Scope
  statements : List Statement
  object : Option String

structure EmittedAll where
  scope : Scope
  statements : List Statement
  objects : List String

def withoutArguments (name : String) : String :=
  String.ofList (name.toList.takeWhile (· != '('))

end Script

open Script

namespace Leaf

def objectKind : Leaf -> ObjectKind
  | event .. => .event
  | property .. => .property
  | signal .. => .signal
  | window .. => .window
  | stepActivation => .stepActivation

def objectName : Leaf -> String
  | event receiver name =>
      "waitFor" ++ Text.upperCamelCase name ++ "In" ++ Text.upperCamelCase receiver
  | property object name _ =>
      "waitFor" ++ Text.upperCamelCase (withoutArguments name) ++ "In" ++
        Text.upperCamelCase object
  | signal emitter name =>
      "waitFor" ++ Text.upperCamelCase (withoutArguments name) ++ "By" ++
        Text.upperCamelCase emitter
  | window name => "waitFor" ++ Text.upperCamelCase name ++ "ToBeShown"
  | stepActivation => "waitForStepActivation"

def assignment (object : String) : Leaf -> Statement
  | event receiver name => .setEvent object receiver name
  | property owner name value => .setProperty object owner name value
  | signal emitter name => .setSignal object emitter name
  | window name => .setWindow object name
  | stepActivation => .setStep object

def emit (scope : Scope) (leaf : Leaf) : Emitted :=
  match leaf.problem? with
  | some problem => ⟨scope, [.problem problem], none⟩
  | none =>
      let object := scope.variableFor leaf.objectName
      ⟨scope.request leaf.objectName,
        [.newCondition object leaf.objectKind, leaf.assignment object], some object⟩

end Leaf

namespace Condition

mutual

/--
A composed condition takes its variable after those of its children, a negation before that of
its child.
-/
def emit (scope : Scope) : Condition -> Emitted
  | leaf l => l.emit scope
  | composed composition children =>
      let emitted := emitAll scope children
      let name := "waitFor" ++ composition.literal
      let object := emitted.scope.variableFor name
      ⟨emitted.scope.request name,
        emitted.statements ++ .newCondition object (.composed composition) ::
          emitted.objects.map (.addChild object), some object⟩
  | negation none => ⟨scope, [.problem .negatedUnset], none⟩
  | negation (some child) =>
      let name := "waitForNot"
      let object := scope.variableFor name
      let emitted := emit (scope.request name) child
      ⟨emitted.scope,
        emitted.statements ++ .blank :: .newCondition object .negation ::
          emitted.object.toList.map (.setNegated object), some object⟩

/-- Every condition is followed by a blank line. -/
def emitAll (scope : Scope) : List Condition -> EmittedAll
  | [] => ⟨scope, [], []⟩
  | condition :: rest =>
      let first := emit scope condition
      let later := emitAll first.scope rest
      ⟨later.scope, first.statements ++ .blank :: later.statements,
        first.object.toList ++ later.objects⟩

end

end Condition

end TutorialKit
