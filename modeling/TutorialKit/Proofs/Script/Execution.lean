import Mathlib.Logic.Function.Basic
import TutorialKit.Script.Conditions

/-!
# Running the statements of a step

What the statements of a set-up function do when they run.  An object is known by its number,
the objects created before it; a variable is bound to such a number.  A statement that uses a
variable without an object, or with an object of another kind, stops the run.
-/

namespace TutorialKit
namespace Script

/-- An object that statements create.  The leaf of a condition has no details at first. -/
inductive Object where
  | option (caption : String)
  | leaf (kind : ObjectKind) (details : Option Leaf)
  | composed (composition : Composition) (children : List Nat)
  | negation (child : Option Nat)
  deriving DecidableEq

/-- An object that was given to the step, and what it leads to. -/
structure Registration where
  object : Nat
  target : Target
  deriving DecidableEq

structure Execution where
  objects : List Object := []
  bindings : String -> Option Nat := fun _ => none
  registrations : List Registration := []

namespace ObjectKind

/-- The object as it is created. -/
def created : ObjectKind -> Object
  | composed composition => .composed composition []
  | negation => .negation none
  | kind => .leaf kind none

end ObjectKind

namespace Object

def isCondition : Object -> Bool
  | option _ => false
  | _ => true

def isOption : Object -> Bool
  | option _ => true
  | _ => false

def setDetails (details : Leaf) : Object -> Option Object
  | leaf kind _ => if kind = details.objectKind then some (leaf kind details) else none
  | _ => none

def addChild (child : Nat) : Object -> Option Object
  | composed composition children => some (composed composition (children ++ [child]))
  | _ => none

def setNegated (child : Nat) : Object -> Option Object
  | negation _ => some (negation (some child))
  | _ => none

end Object

namespace Execution

/-- The number of the object that a variable is bound to, if it is of the kind that is wanted. -/
def number? (state : Execution) (wanted : Object -> Bool) (name : String) : Option Nat := do
  let number <- state.bindings name
  let object <- state.objects[number]?
  if wanted object then some number else none

def create (state : Execution) (name : String) (object : Object) : Execution :=
  { state with
    objects := state.objects ++ [object]
    bindings := Function.update state.bindings name (some state.objects.length) }

def change (state : Execution) (name : String) (f : Object -> Option Object) :
    Option Execution := do
  let number <- state.bindings name
  let object <- state.objects[number]?
  let changed <- f object
  return { state with objects := state.objects.set number changed }

def register (state : Execution) (object : Nat) (target : Target) : Execution :=
  { state with registrations := state.registrations ++ [⟨object, target⟩] }

def perform (state : Execution) : Statement -> Option Execution
  | .blank => some state
  | .problem _ => some state
  | .newOption object caption => some (state.create object (.option caption))
  | .newCondition object kind => some (state.create object kind.created)
  | .setEvent object receiver event =>
      state.change object (Object.setDetails (.event receiver event))
  | .setProperty object owner property value =>
      state.change object (Object.setDetails (.property owner property value))
  | .setSignal object emitter signal =>
      state.change object (Object.setDetails (.signal emitter signal))
  | .setWindow object window => state.change object (Object.setDetails (.window window))
  | .setStep object => state.change object (Object.setDetails .stepActivation)
  | .addChild object child =>
      (state.number? Object.isCondition child).bind fun number =>
        state.change object (Object.addChild number)
  | .setNegated object child =>
      (state.number? Object.isCondition child).bind fun number =>
        state.change object (Object.setNegated number)
  | .addOption object target =>
      (state.number? Object.isOption object).map fun number => state.register number target
  | .addCondition object target =>
      (state.number? Object.isCondition object).map fun number =>
        state.register number target

/-- What a list of statements does, one after the other. -/
def run (state : Execution) : List Statement -> Option Execution
  | [] => some state
  | statement :: rest => (state.perform statement).bind fun later => later.run rest

@[simp] theorem run_nil (state : Execution) : state.run [] = some state := rfl

@[simp] theorem run_cons (state : Execution) (statement : Statement)
    (rest : List Statement) :
    state.run (statement :: rest) =
      (state.perform statement).bind fun later => later.run rest := rfl

theorem run_append (state : Execution) (first second : List Statement) :
    state.run (first ++ second) = (state.run first).bind fun later => later.run second := by
  induction first generalizing state with
  | nil => rfl
  | cons statement rest ih =>
      rw [List.cons_append, run_cons, run_cons, Option.bind_assoc]
      exact congrArg _ (funext fun later => ih later)

end Execution

/-!
# Names that statements declare and use

Whether a statement runs depends on kinds of objects, too; that the variables are bound is what can
be told from names alone.
-/

namespace Statement

def declared : Statement -> List String
  | newOption object _ => [object]
  | newCondition object _ => [object]
  | _ => []

def used : Statement -> List String
  | setEvent object _ _ => [object]
  | setProperty object _ _ _ => [object]
  | setSignal object _ _ => [object]
  | setWindow object _ => [object]
  | setStep object => [object]
  | addChild object child => [object, child]
  | setNegated object child => [object, child]
  | addOption object _ => [object]
  | addCondition object _ => [object]
  | _ => []

end Statement

def declaredAll (statements : List Statement) : List String :=
  statements.flatMap Statement.declared

/-- Whatever a statement uses has been declared by the statements before it. -/
def BoundBeforeUse (statements : List Statement) : Prop :=
  forall before statement after, statements = before ++ statement :: after ->
    forall name, name ∈ statement.used -> name ∈ declaredAll before

@[simp] theorem declaredAll_nil : declaredAll [] = [] := rfl

@[simp] theorem declaredAll_cons (statement : Statement) (rest : List Statement) :
    declaredAll (statement :: rest) = statement.declared ++ declaredAll rest := rfl

@[simp] theorem declaredAll_append (first second : List Statement) :
    declaredAll (first ++ second) = declaredAll first ++ declaredAll second :=
  List.flatMap_append

namespace Execution

section

variable {state later : Execution} {name : String}

theorem bound_of_number? {wanted : Object -> Bool} {number : Nat}
    (h : state.number? wanted name = some number) : (state.bindings name).isSome := by
  cases hname : state.bindings name with
  | none => simp [number?, hname] at h
  | some bound => rfl

theorem bound_of_change {f : Object -> Option Object}
    (h : state.change name f = some later) : (state.bindings name).isSome := by
  cases hname : state.bindings name with
  | none => simp [change, hname] at h
  | some bound => rfl

theorem bindings_of_change {f : Object -> Option Object}
    (h : state.change name f = some later) : later.bindings = state.bindings := by
  simp only [change, bind, Option.bind_eq_some_iff, pure, Option.some.injEq] at h
  rcases h with ⟨number, _, object, _, changed, _, rfl⟩
  rfl

theorem bound_create_iff {object : Object} {other : String} :
    ((state.create name object).bindings other).isSome ↔
      (state.bindings other).isSome ∨ other = name := by
  by_cases hother : other = name
  · simp [create, hother]
  · simp [create, hother]

theorem bound_perform_iff {statement : Statement}
    (h : state.perform statement = some later) :
    (later.bindings name).isSome ↔
      (state.bindings name).isSome ∨ name ∈ statement.declared := by
  cases statement with
  | blank | problem _ =>
      cases h
      simp [Statement.declared]
  | newOption object _ | newCondition object _ =>
      cases h
      simp [Statement.declared, bound_create_iff]
  | setEvent _ _ _ | setProperty _ _ _ _ | setSignal _ _ _ | setWindow _ _ | setStep _ =>
      simp [Statement.declared, bindings_of_change h]
  | addChild _ _ | setNegated _ _ =>
      rcases Option.bind_eq_some_iff.mp h with ⟨number, _, hchange⟩
      simp [Statement.declared, bindings_of_change hchange]
  | addOption _ _ | addCondition _ _ =>
      rcases Option.map_eq_some_iff.mp h with ⟨number, _, rfl⟩
      simp [Statement.declared, register]

theorem bound_of_perform {statement : Statement}
    (h : state.perform statement = some later) (hname : name ∈ statement.used) :
    (state.bindings name).isSome := by
  cases statement with
  | blank | problem _ | newOption _ _ | newCondition _ _ => simp [Statement.used] at hname
  | setEvent _ _ _ | setProperty _ _ _ _ | setSignal _ _ _ | setWindow _ _ | setStep _ =>
      cases List.mem_singleton.mp hname
      exact bound_of_change h
  | addChild object child | setNegated object child =>
      rcases Option.bind_eq_some_iff.mp h with ⟨number, hnumber, hchange⟩
      simp only [Statement.used, List.mem_cons, List.not_mem_nil, or_false] at hname
      rcases hname with rfl | rfl
      · exact bound_of_change hchange
      · exact bound_of_number? hnumber
  | addOption _ _ | addCondition _ _ =>
      cases List.mem_singleton.mp hname
      rcases Option.map_eq_some_iff.mp h with ⟨number, hnumber, _⟩
      exact bound_of_number? hnumber

theorem bound_run_iff {statements : List Statement}
    (h : state.run statements = some later) :
    (later.bindings name).isSome ↔
      (state.bindings name).isSome ∨ name ∈ declaredAll statements := by
  induction statements generalizing state with
  | nil =>
      cases h
      simp
  | cons statement rest ih =>
      rcases Option.bind_eq_some_iff.mp h with ⟨between, hfirst, hrest⟩
      rw [ih hrest, bound_perform_iff hfirst, declaredAll_cons, List.mem_append, or_assoc]

/-- Statements that run from the beginning declare everything before they use it. -/
theorem boundBeforeUse_of_run {statements : List Statement}
    (h : ({} : Execution).run statements = some later) : BoundBeforeUse statements := by
  rintro before statement after rfl name hname
  rw [run_append] at h
  rcases Option.bind_eq_some_iff.mp h with ⟨between, hbefore, hafter⟩
  rcases Option.bind_eq_some_iff.mp hafter with ⟨next, hstatement, _⟩
  have hbound := (bound_run_iff hbefore).mp (bound_of_perform hstatement hname)
  rcases hbound with hbound | hdeclared
  · cases hbound
  · exact hdeclared

end

end Execution

end Script
end TutorialKit
