import Mathlib.Data.List.Forall2
import TutorialKit.Proofs.Script.Execution

/-!
# Meaning of objects

The number of an object stands for a condition, read through the objects that it refers to.  An
author may leave a condition incomplete; what can be watched of it is the condition without its
incomplete nodes.
-/

namespace TutorialKit

open Script

/-!
# Incomplete nodes

A leaf is incomplete if a detail that belongs to its kind is not given, and a negation if it has no
child at all.
-/

namespace Leaf

def fields : Leaf -> List String
  | event receiver name => [receiver, name]
  | property object name value => [object, name, value]
  | signal emitter name => [emitter, name]
  | window name => [name]
  | stepActivation => []

def IsComplete (leaf : Leaf) : Prop :=
  "" ∉ leaf.fields

instance (leaf : Leaf) : Decidable leaf.IsComplete :=
  inferInstanceAs (Decidable ("" ∉ leaf.fields))

theorem problem?_eq_none_iff {leaf : Leaf} : leaf.problem? = none ↔ leaf.IsComplete := by
  cases leaf <;> simp only [problem?, IsComplete, fields] <;> grind

end Leaf

namespace Condition

mutual

/--
The condition without its incomplete nodes, if it is not incomplete itself.  A negation that has
lost its child is kept.
-/
def prune? : Condition -> Option Condition
  | leaf l => if l.IsComplete then some (leaf l) else none
  | composed composition children => some (composed composition (pruneAll children))
  | negation none => none
  | negation (some child) => some (negation child.prune?)

def pruneAll : List Condition -> List Condition
  | [] => []
  | first :: rest => first.prune?.toList ++ pruneAll rest

end

end Condition

namespace Script

/-!
# Objects that stand for conditions

An object stands for a condition through its number, and its children through theirs.
-/

mutual

inductive Denotes (objects : List Object) : Nat -> Condition -> Prop where
  | leaf {number : Nat} {l : Leaf} :
      objects[number]? = some (.leaf l.objectKind l) -> Denotes objects number (.leaf l)
  | composed {number : Nat} {composition : Composition} {numbers : List Nat}
      {children : List Condition} :
      objects[number]? = some (.composed composition numbers) ->
      DenotesAll objects numbers children ->
      Denotes objects number (.composed composition children)
  | unset {number : Nat} :
      objects[number]? = some (.negation none) -> Denotes objects number (.negation none)
  | negation {number negated : Nat} {child : Condition} :
      objects[number]? = some (.negation negated) -> Denotes objects negated child ->
      Denotes objects number (.negation child)

inductive DenotesAll (objects : List Object) : List Nat -> List Condition -> Prop where
  | nil : DenotesAll objects [] []
  | cons {number : Nat} {condition : Condition} {numbers : List Nat}
      {conditions : List Condition} :
      Denotes objects number condition -> DenotesAll objects numbers conditions ->
      DenotesAll objects (number :: numbers) (condition :: conditions)

end

section

variable {objects later : List Object}

theorem getElem?_of_isPrefix {number : Nat} {object : Object} (h : objects <+: later)
    (hobject : objects[number]? = some object) : later[number]? = some object := by
  rcases h with ⟨added, rfl⟩
  rw [List.getElem?_append_left (List.getElem?_eq_some_iff.mp hobject).1]
  exact hobject

mutual

/-- Objects that are created later do not change what a number stands for. -/
theorem Denotes.of_isPrefix {number : Nat} {condition : Condition} (h : objects <+: later) :
    Denotes objects number condition -> Denotes later number condition
  | .leaf hobject => .leaf (getElem?_of_isPrefix h hobject)
  | .composed hobject hchildren =>
      .composed (getElem?_of_isPrefix h hobject) (hchildren.of_isPrefix h)
  | .unset hobject => .unset (getElem?_of_isPrefix h hobject)
  | .negation hobject hchild =>
      .negation (getElem?_of_isPrefix h hobject) (hchild.of_isPrefix h)

theorem DenotesAll.of_isPrefix {numbers : List Nat} {conditions : List Condition}
    (h : objects <+: later) :
    DenotesAll objects numbers conditions -> DenotesAll later numbers conditions
  | .nil => .nil
  | .cons hfirst hrest => .cons (hfirst.of_isPrefix h) (hrest.of_isPrefix h)

end

theorem Denotes.isCondition {number : Nat} {condition : Condition}
    (h : Denotes objects number condition) :
    exists object, objects[number]? = some object ∧ object.isCondition = true := by
  cases h with
  | leaf hobject | composed hobject _ | unset hobject | negation hobject _ =>
      exact ⟨_, hobject, rfl⟩

mutual

theorem Denotes.unique {number : Nat} {condition other : Condition} :
    Denotes objects number condition -> Denotes objects number other -> condition = other
  | .leaf hobject, hother => by
      cases hother with
      | leaf hobject' | composed hobject' _ | unset hobject' | negation hobject' _ =>
          simp_all
  | .composed hobject hchildren, hother => by
      cases hother with
      | composed hobject' hchildren' =>
          have heq := Option.some.inj (hobject.symm.trans hobject')
          injection heq with hcomposition hnumbers
          subst hcomposition hnumbers
          rw [hchildren.unique hchildren']
      | leaf hobject' | unset hobject' | negation hobject' _ => simp_all
  | .unset hobject, hother => by
      cases hother with
      | leaf hobject' | composed hobject' _ | unset hobject' | negation hobject' _ =>
          simp_all
  | .negation hobject hchild, hother => by
      cases hother with
      | negation hobject' hchild' =>
          have heq := Option.some.inj (hobject.symm.trans hobject')
          injection heq with hnegated
          cases hnegated
          rw [hchild.unique hchild']
      | leaf hobject' | composed hobject' _ | unset hobject' => simp_all

theorem DenotesAll.unique {numbers : List Nat} {conditions others : List Condition} :
    DenotesAll objects numbers conditions -> DenotesAll objects numbers others ->
      conditions = others
  | .nil, .nil => rfl
  | .cons hfirst hrest, .cons hfirst' hrest' => by
      rw [hfirst.unique hfirst', hrest.unique hrest']

end

end

end Script
end TutorialKit
