import TutorialKit.Condition
import TutorialKit.Editing.Listeners

/-!
# Conditions that are edited

A condition in an open document has listeners at every node.  They move with the node, take no part
in equality, and hear of changes of that node alone.
-/

namespace TutorialKit

abbrev Label := String

inductive LiveCondition where
  | leaf (listeners : Listeners Label) (leaf : Leaf)
  | composed (listeners : Listeners Label) (composition : Composition)
      (children : List LiveCondition)
  | negation (listeners : Listeners Label) (child : Option LiveCondition)
  deriving Inhabited

inductive ConditionChange where
  | dataChanged
  | childAdded (index : Nat)
  | childRemoved (index : Nat)
  deriving DecidableEq

inductive LeafField where
  | receiver
  | event
  | object
  | property
  | value
  | emitter
  | signal
  | window
  deriving DecidableEq

namespace Leaf

/-- The leaf with one of its texts replaced; nothing if it has no such text. -/
def set? (field : LeafField) (text : String) : Leaf -> Option Leaf
  | event receiver name =>
      match field with
      | .receiver => some (event text name)
      | .event => some (event receiver text)
      | _ => none
  | property object name value =>
      match field with
      | .object => some (property text name value)
      | .property => some (property object text value)
      | .value => some (property object name text)
      | _ => none
  | signal emitter name =>
      match field with
      | .emitter => some (signal text name)
      | .signal => some (signal emitter text)
      | _ => none
  | window _ =>
      match field with
      | .window => some (window text)
      | _ => none
  | stepActivation => none

end Leaf

namespace LiveCondition

/-!
# Content

The content of a condition is what is left of it without its listeners.
-/

mutual

def content : LiveCondition -> Condition
  | leaf _ l => .leaf l
  | composed _ composition children => .composed composition (contentAll children)
  | negation _ none => .negation none
  | negation _ (some child) => .negation (some (content child))

def contentAll : List LiveCondition -> List Condition
  | [] => []
  | condition :: rest => content condition :: contentAll rest

end

mutual

def ofContent : Condition -> LiveCondition
  | .leaf l => leaf .none l
  | .composed composition children => composed .none composition (ofContentAll children)
  | .negation none => negation .none none
  | .negation (some child) => negation .none (some (ofContent child))

def ofContentAll : List Condition -> List LiveCondition
  | [] => []
  | condition :: rest => ofContent condition :: ofContentAll rest

end

/-- A copy is equal to what it was made from and has no listeners. -/
def copy (condition : LiveCondition) : LiveCondition :=
  ofContent condition.content

/-!
# Nodes

A node is reached by the child indices on the way to it.
-/

def listeners : LiveCondition -> Listeners Label
  | leaf ls _ => ls
  | composed ls _ _ => ls
  | negation ls _ => ls

def setListeners (ls : Listeners Label) : LiveCondition -> LiveCondition
  | leaf _ l => leaf ls l
  | composed _ composition children => composed ls composition children
  | negation _ child => negation ls child

def children : LiveCondition -> List LiveCondition
  | leaf .. => []
  | composed _ _ cs => cs
  | negation _ child => child.toList

def setChild (condition : LiveCondition) (index : Nat) (child : LiveCondition) : LiveCondition :=
  match condition with
  | composed ls composition cs => composed ls composition (cs.set index child)
  | negation ls (some previous) =>
      if index = 0 then negation ls (some child) else negation ls (some previous)
  | other => other

/--
Works on the node at the end of a path of child indices and puts it back; nothing if the path
leads to no node.
-/
def updateAt {α : Type} (f : LiveCondition -> LiveCondition × α) :
    List Nat -> LiveCondition -> Option (LiveCondition × α)
  | [], condition => some (f condition)
  | index :: path, condition =>
      match condition.children[index]? with
      | none => none
      | some child =>
          match updateAt f path child with
          | none => none
          | some (child, result) => some (condition.setChild index child, result)

def nodeAt? : List Nat -> LiveCondition -> Option LiveCondition
  | [], condition => some condition
  | index :: path, condition =>
      match condition.children[index]? with
      | none => none
      | some child => nodeAt? path child

end LiveCondition

/-!
# Edits

Setters exchange what a node holds by itself; children are added, inserted, removed or exchanged.
An edit that does not fit the node leaves it as it is.
-/

inductive ConditionEdit where
  | setText (field : LeafField) (text : String)
  | setComposition (composition : Composition)
  | addChild (child : LiveCondition)
  | insertChild (index : Nat) (child : LiveCondition)
  | removeChild (index : Nat)
  | setNegated (child : Option LiveCondition)

structure ChildIndexError where
  index : Nat
  count : Nat
  deriving DecidableEq

namespace ChildIndexError

def message (error : ChildIndexError) : String :=
  "child index " ++ toString error.index ++ " out of range for composed condition with " ++
    toString error.count ++ " children"

end ChildIndexError

inductive ConditionResult where
  | done
  | removed (child : LiveCondition)
  | displaced (child : Option LiveCondition)
  | notApplicable
  | outOfRange (error : ChildIndexError)

structure EditedCondition where
  condition : LiveCondition
  change : Option ConditionChange
  result : ConditionResult

namespace LiveCondition

def unchanged (condition : LiveCondition) (result : ConditionResult) : EditedCondition :=
  ⟨condition, none, result⟩

def insertChild (index : Nat) (child : LiveCondition) (ls : Listeners Label)
    (composition : Composition) (children : List LiveCondition) : EditedCondition :=
  if index <= children.length then
    ⟨composed ls composition (children.insertIdx index child), some (.childAdded index), .done⟩
  else unchanged (composed ls composition children) (.outOfRange ⟨index, children.length⟩)

def removeChild (index : Nat) (ls : Listeners Label) (composition : Composition)
    (children : List LiveCondition) : EditedCondition :=
  match children[index]? with
  | some child =>
      ⟨composed ls composition (children.eraseIdx index), some (.childRemoved index),
        .removed child⟩
  | none => unchanged (composed ls composition children) (.outOfRange ⟨index, children.length⟩)

def edit (condition : LiveCondition) (edit : ConditionEdit) : EditedCondition :=
  match condition, edit with
  | leaf ls l, .setText field text =>
      match l.set? field text with
      | some l => ⟨leaf ls l, some .dataChanged, .done⟩
      | none => unchanged (leaf ls l) .notApplicable
  | composed ls _ children, .setComposition composition =>
      ⟨composed ls composition children, some .dataChanged, .done⟩
  | composed ls composition children, .addChild child =>
      insertChild children.length child ls composition children
  | composed ls composition children, .insertChild index child =>
      insertChild index child ls composition children
  | composed ls composition children, .removeChild index =>
      removeChild index ls composition children
  | negation ls previous, .setNegated child =>
      ⟨negation ls child, some .dataChanged, .displaced previous⟩
  | condition, _ => unchanged condition .notApplicable

def notices (condition : LiveCondition) (change : Option ConditionChange) :
    List (Label × ConditionChange) :=
  match change with
  | none => []
  | some change => condition.listeners.notify change

end LiveCondition

end TutorialKit
