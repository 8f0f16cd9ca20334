import TutorialKit.Editing.Equality

/-!
# Editing one condition

Requests to a condition name a node by the child indices on the way to it.  Subscriptions are
remembered by label, so that they can be cancelled by label; numbers of subscriptions are counted
by every node for itself.
-/

namespace TutorialKit

structure ConditionEditor where
  condition : LiveCondition
  subscriptions : List (Label × Nat) := []

inductive ConditionRequest where
  | observe (label : Label)
  | unobserve (label : Label)
  | describe
  | copy
  | compare (other : Condition)
  | edit (edit : ConditionEdit)
  | unknown

inductive ConditionAnswer where
  | count (n : Nat)
  | flag (value : Bool)
  | node (condition : LiveCondition)
  | copied (copy : LiveCondition) (equal : Bool)
  | result (result : ConditionResult)
  | unknownNode
  | unknownLabel

structure ServedNode where
  condition : LiveCondition
  subscriptions : List (Label × Nat)
  notices : List (Label × ConditionChange)
  answer : ConditionAnswer

namespace ConditionEditor

def observe (label : Label) (subscriptions : List (Label × Nat)) (node : LiveCondition) :
    ServedNode :=
  let registry := node.listeners.subscribe label
  ⟨node.setListeners registry, (label, node.listeners.nextId) :: subscriptions, [],
    .count registry.size⟩

def unobserve (label : Label) (subscriptions : List (Label × Nat)) (node : LiveCondition) :
    ServedNode :=
  match subscriptions.lookup label with
  | none => ⟨node, subscriptions, [], .unknownLabel⟩
  | some id =>
      ⟨node.setListeners (node.listeners.unsubscribe id), subscriptions, [],
        .flag (node.listeners.isSubscribed id)⟩

def serveNode (request : ConditionRequest) (subscriptions : List (Label × Nat))
    (node : LiveCondition) : ServedNode :=
  match request with
  | .observe label => observe label subscriptions node
  | .unobserve label => unobserve label subscriptions node
  | .describe => ⟨node, subscriptions, [], .node node⟩
  | .copy => ⟨node, subscriptions, [], .copied node.copy (node.copy == node)⟩
  | .compare other => ⟨node, subscriptions, [], .flag (node == LiveCondition.ofContent other)⟩
  | .edit edit =>
      let edited := node.edit edit
      ⟨edited.condition, subscriptions, node.notices edited.change, .result edited.result⟩
  | .unknown => ⟨node, subscriptions, [], .result .notApplicable⟩

def serve (path : List Nat) (request : ConditionRequest) (editor : ConditionEditor) :
    ConditionEditor × List (Label × ConditionChange) × ConditionAnswer :=
  let work (node : LiveCondition) : LiveCondition × ServedNode :=
    let served := serveNode request editor.subscriptions node
    (served.condition, served)
  match editor.condition.updateAt work path with
  | none => (editor, [], .unknownNode)
  | some (condition, served) =>
      (⟨condition, served.subscriptions⟩, served.notices, served.answer)

end ConditionEditor

end TutorialKit
