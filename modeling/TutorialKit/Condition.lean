import TutorialKit.Literal

/-!
# Conditions

A condition is a tree.  Its leaves name something that can be observed in the application; inner
nodes join any number of conditions or negate at most one.
-/

namespace TutorialKit

/-- Something observable.  An empty text is a detail that the author has not given yet. -/
inductive Leaf where
  | event (receiver event : String)
  | property (object property value : String)
  | signal (emitter signal : String)
  | window (window : String)
  | stepActivation
  deriving DecidableEq, Inhabited

inductive Condition where
  | leaf (leaf : Leaf)
  | composed (composition : Composition) (children : List Condition)
  | negation (child : Option Condition)
  deriving Inhabited

namespace Leaf

def kindName : Leaf -> String
  | event .. => "waitForEvent"
  | property .. => "waitForProperty"
  | signal .. => "waitForSignal"
  | window .. => "waitForWindow"
  | stepActivation => "waitForStepActivation"

end Leaf

namespace Condition

/-!
# Induction

One case for every kind of node; the hypotheses speak of the children themselves.
-/

mutual

@[elab_as_elim, induction_eliminator]
theorem induct {motive : Condition -> Prop}
    (leaf : forall l, motive (.leaf l))
    (composed : forall composition children, (forall child, child ∈ children -> motive child) ->
      motive (.composed composition children))
    (unset : motive (.negation none))
    (negation : forall child, motive child -> motive (.negation (some child))) :
    forall condition, motive condition
  | .leaf l => leaf l
  | .composed composition children =>
      composed composition children (inductAll leaf composed unset negation children)
  | .negation none => unset
  | .negation (some child) => negation child (induct leaf composed unset negation child)

theorem inductAll {motive : Condition -> Prop}
    (leaf : forall l, motive (.leaf l))
    (composed : forall composition children, (forall child, child ∈ children -> motive child) ->
      motive (.composed composition children))
    (unset : motive (.negation none))
    (negation : forall child, motive child -> motive (.negation (some child))) :
    forall (children : List Condition), forall child, child ∈ children -> motive child
  | [], _, h => nomatch h
  | first :: rest, child, h =>
      match List.mem_cons.mp h with
      | .inl heq => heq ▸ induct leaf composed unset negation first
      | .inr hrest => inductAll leaf composed unset negation rest child hrest

end

def kindName : Condition -> String
  | leaf l => l.kindName
  | composed .. => "waitForComposed"
  | negation _ => "waitForNot"

def children : Condition -> List Condition
  | leaf _ => []
  | composed _ cs => cs
  | negation child => child.toList

mutual

def nodeCount : Condition -> Nat
  | leaf _ => 1
  | composed _ cs => 1 + nodeCountAll cs
  | negation none => 1
  | negation (some child) => 1 + nodeCount child

def nodeCountAll : List Condition -> Nat
  | [] => 0
  | c :: cs => nodeCount c + nodeCountAll cs

end

mutual

/-- The number of nodes on the longest way down, the root included. -/
def depth : Condition -> Nat
  | leaf _ => 1
  | composed _ cs => 1 + depthAll cs
  | negation none => 1
  | negation (some child) => 1 + depth child

def depthAll : List Condition -> Nat
  | [] => 0
  | c :: cs => max (depth c) (depthAll cs)

end

/-!
# Equality

Two conditions are compared from the root down, their children in order.
-/

mutual

def decEq : (a b : Condition) -> Decidable (a = b)
  | leaf l, leaf m =>
      if h : l = m then isTrue (by rw [h]) else isFalse (by simpa using h)
  | composed p cs, composed q ds =>
      if h : p = q then
        match decEqAll cs ds with
        | isTrue hs => isTrue (by rw [h, hs])
        | isFalse hs => isFalse (by simp [hs])
      else isFalse (by simp [h])
  | negation none, negation none => isTrue rfl
  | negation (some c), negation (some d) =>
      match decEq c d with
      | isTrue h => isTrue (by rw [h])
      | isFalse h => isFalse (by simpa using h)
  | negation none, negation (some _) => isFalse (by simp)
  | negation (some _), negation none => isFalse (by simp)
  | leaf _, composed .. => isFalse (by simp)
  | leaf _, negation _ => isFalse (by simp)
  | composed .., leaf _ => isFalse (by simp)
  | composed .., negation _ => isFalse (by simp)
  | negation _, leaf _ => isFalse (by simp)
  | negation _, composed .. => isFalse (by simp)

def decEqAll : (as bs : List Condition) -> Decidable (as = bs)
  | [], [] => isTrue rfl
  | [], _ :: _ => isFalse (by simp)
  | _ :: _, [] => isFalse (by simp)
  | a :: as, b :: bs =>
      match decEq a b with
      | isTrue h =>
          match decEqAll as bs with
          | isTrue hs => isTrue (by rw [h, hs])
          | isFalse hs => isFalse (by simp [hs])
      | isFalse h => isFalse (by simp [h])

end

instance : DecidableEq Condition := decEq

end Condition

end TutorialKit
