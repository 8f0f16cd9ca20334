import TutorialKit.Proofs.Script.Meaning

/-!
# Statements that build conditions

The statements for a condition, run after any others, build an object that stands for the
condition without its incomplete nodes.  Objects and variables that were there before stay as
they are, if no variable is declared twice.
-/

namespace TutorialKit

open Script

namespace Script
namespace Execution

/-!
# A new object

An object that has just been created can be changed at once, since its variable leads to it.
-/

section

variable {state : Execution} {name other : String} {object : Object}

theorem run_singleton (statement : Statement) :
    state.run [statement] = state.perform statement := by
  simp

theorem change_create {f : Object -> Option Object} :
    (state.create name object).change name f = (f object).map (state.create name) := by
  cases h : f object with
  | none => simp [change, create, h]
  | some changed => simp [change, create, h]

theorem number?_create_self {wanted : Object -> Bool} (h : wanted object) :
    (state.create name object).number? wanted name = some state.objects.length := by
  simp [number?, create, h]

theorem number?_create (object : Object) {wanted : Object -> Bool} {number : Nat}
    (hne : other ≠ name) (h : state.number? wanted other = some number) :
    (state.create name object).number? wanted other = some number := by
  simp only [number?, bind, Option.bind_eq_some_iff, Option.ite_none_right_eq_some,
    Option.some.injEq] at h
  rcases h with ⟨bound, hbound, found, hfound, hwanted, rfl⟩
  have hkept : (state.create name object).objects[bound]? = some found :=
    getElem?_of_isPrefix (List.prefix_append _ _) hfound
  have hbinding : (state.create name object).bindings other = some bound :=
    (Function.update_of_ne hne _ _).trans hbound
  simp [number?, hbinding, hkept, hwanted]

theorem run_addChildren {composition : Composition} {names : List String} {numbers : List Nat}
    (hnew : name ∉ names)
    (h : List.Forall₂ (fun child number =>
      state.number? Object.isCondition child = some number) names numbers)
    (children : List Nat) :
    (state.create name (.composed composition children)).run
        (names.map (.addChild name)) =
      some (state.create name (.composed composition (children ++ numbers))) := by
  induction h generalizing children with
  | nil => simp
  | @cons child number names numbers hfirst hrest ih =>
      rw [List.mem_cons, not_or] at hnew
      have hchild := number?_create (.composed composition children)
        (Ne.symm hnew.1) hfirst
      simp only [List.map_cons, run_cons, perform, hchild, Option.bind_some, change_create,
        Object.addChild, Option.map_some]
      rw [ih hnew.2]
      simp

end

/-!
# What stays as it is

Statements for a condition touch the objects of their own variables only.
-/

/-- The later state has new objects, and other objects for the given variables only. -/
structure Extends (names : List String) (state later : Execution) : Prop where
  objects : state.objects <+: later.objects
  registrations : later.registrations = state.registrations
  bindings : forall name, name ∉ names -> later.bindings name = state.bindings name

namespace Extends

variable {state between later : Execution} {names others : List String}

theorem refl (state : Execution) : Extends names state state :=
  ⟨List.prefix_rfl, rfl, fun _ _ => rfl⟩

theorem trans (hfirst : Extends names state between) (hsecond : Extends others between later) :
    Extends (names ++ others) state later := by
  refine ⟨hfirst.objects.trans hsecond.objects, ?_, ?_⟩
  · rw [hsecond.registrations, hfirst.registrations]
  · intro name hname
    rw [List.mem_append, not_or] at hname
    rw [hsecond.bindings name hname.2, hfirst.bindings name hname.1]

theorem create (state : Execution) (name : String) (object : Object) :
    Extends [name] state (state.create name object) := by
  refine ⟨List.prefix_append _ _, rfl, ?_⟩
  intro other hother
  rw [List.mem_singleton] at hother
  exact Function.update_of_ne hother _ _

end Extends

/-- The variable, one of the given ones, is bound to an object that stands for the condition. -/
structure Holds (state : Execution) (names : List String) (name : String)
    (condition : Condition) : Prop where
  declared : name ∈ names
  denotes : exists number, state.bindings name = some number ∧
    Denotes state.objects number condition

namespace Holds

variable {state later : Execution} {names others : List String} {name : String}
  {condition : Condition}

theorem weaken (h : Holds state names name condition) (hsubset : names ⊆ others) :
    Holds state others name condition :=
  ⟨hsubset h.declared, h.denotes⟩

theorem extend (h : Holds state names name condition) (hextends : Extends others state later)
    (hdisjoint : List.Disjoint names others) : Holds later names name condition := by
  rcases h.denotes with ⟨number, hbound, hdenotes⟩
  refine ⟨h.declared, number, ?_, hdenotes.of_isPrefix hextends.objects⟩
  rw [hextends.bindings name (fun hother => hdisjoint h.declared hother)]
  exact hbound

theorem number? (h : Holds state names name condition) :
    exists number, state.number? Object.isCondition name = some number ∧
      Denotes state.objects number condition := by
  rcases h.denotes with ⟨number, hbound, hdenotes⟩
  rcases hdenotes.isCondition with ⟨object, hobject, hcondition⟩
  exact ⟨number, by simp [Execution.number?, hbound, hobject, hcondition], hdenotes⟩

end Holds
end Execution

/-!
# Building conditions

The induction is on the condition.  The object of a node is created after those of its children,
whose variables are still bound to them then.
-/

theorem forall₂_toList {related : α -> β -> Prop} {first : Option α} {second : Option β}
    (h : List.Forall₂ related first.toList second.toList) :
    first = none ∧ second = none ∨
      exists x y, first = some x ∧ second = some y ∧ related x y := by
  cases first with
  | none =>
      cases second with
      | none => exact .inl ⟨rfl, rfl⟩
      | some y => cases h
  | some x =>
      cases second with
      | none => cases h
      | some y =>
          cases h with
          | cons hrelated _ => exact .inr ⟨x, y, rfl, rfl, hrelated⟩

open Execution in
/--
The statements run from every state, if they declare no variable twice.  Afterwards the names are
bound to objects that stand for the conditions, one for each.
-/
def Builds (statements : List Statement) (names : List String) (conditions : List Condition) :
    Prop :=
  forall state, (declaredAll statements).Nodup ->
    exists later, state.run statements = some later ∧
      Extends (declaredAll statements) state later ∧
      List.Forall₂ (Holds later (declaredAll statements)) names conditions

namespace Builds

open Execution

variable {statements first second : List Statement} {names others : List String}
  {conditions others' : List Condition}

theorem problem (p : Problem) : Builds [.problem p] [] [] := by
  intro state _
  exact ⟨state, rfl, Extends.refl state, .nil⟩

theorem nil : Builds [] [] [] := by
  intro state _
  exact ⟨state, rfl, Extends.refl state, .nil⟩

theorem append (hfirst : Builds first names conditions)
    (hsecond : Builds second others others') :
    Builds (first ++ .blank :: second) (names ++ others) (conditions ++ others') := by
  intro state hdistinct
  have hdeclared : declaredAll (first ++ .blank :: second) =
      declaredAll first ++ declaredAll second := by
    simp [Statement.declared]
  rw [hdeclared, List.nodup_append] at hdistinct
  rcases hdistinct with ⟨hnodup, hnodup', hne⟩
  have hdisjoint : List.Disjoint (declaredAll first) (declaredAll second) :=
    fun name hname hname' => hne name hname name hname' rfl
  rcases hfirst state hnodup with ⟨between, hrun, hextends, hholds⟩
  rcases hsecond between hnodup' with ⟨later, hrun', hextends', hholds'⟩
  rw [hdeclared]
  refine ⟨later, ?_, hextends.trans hextends', List.rel_append ?_ ?_⟩
  · rw [run_append, hrun]
    exact hrun'
  · refine hholds.imp fun name condition h => ?_
    exact (h.extend hextends' hdisjoint).weaken (List.subset_append_left _ _)
  · refine hholds'.imp fun name condition h => ?_
    exact h.weaken (List.subset_append_right _ _)

theorem perform_assignment (state : Execution) (object : String) (l : Leaf) :
    state.perform (l.assignment object) = state.change object (Object.setDetails l) := by
  cases l <;> rfl

theorem declared_assignment (object : String) (l : Leaf) :
    (l.assignment object).declared = [] := by
  cases l <;> rfl

theorem declaredAll_map_addChild (object : String) (names : List String) :
    declaredAll (names.map (.addChild object)) = [] := by
  induction names with
  | nil => rfl
  | cons name names ih => exact ih

theorem created_objectKind (l : Leaf) : l.objectKind.created = .leaf l.objectKind none := by
  cases l <;> rfl

theorem exists_numbers {state : Execution} {declared : List String}
    (h : List.Forall₂ (Holds state declared) names conditions) :
    exists numbers, List.Forall₂ (fun name number =>
        state.number? Object.isCondition name = some number) names numbers ∧
      DenotesAll state.objects numbers conditions := by
  induction h with
  | nil => exact ⟨[], .nil, .nil⟩
  | cons hfirst _ ih =>
      rcases ih with ⟨numbers, hnumbers, hdenotes⟩
      rcases hfirst.number? with ⟨number, hnumber, hfirst⟩
      exact ⟨number :: numbers, .cons hnumber hnumbers, .cons hfirst hdenotes⟩

theorem not_mem_of_holds {state : Execution} {declared : List String} {object : String}
    (h : List.Forall₂ (Holds state declared) names conditions) (hnew : object ∉ declared) :
    object ∉ names := by
  induction h with
  | nil => exact List.not_mem_nil
  | cons hfirst _ ih =>
      rw [List.mem_cons, not_or]
      refine ⟨?_, ih⟩
      rintro rfl
      exact hnew hfirst.declared

/--
An object that is created last, made of the objects that the names are bound to.  These are not
lost, as its own variable is a new one.
-/
theorem create (result : List Nat -> Object) {object : String} {more : List Statement}
    {condition : Condition} (h : Builds statements names conditions)
    (hdeclared : declaredAll more = [object])
    (hrun : forall (state : Execution) (numbers : List Nat), object ∉ names ->
      List.Forall₂ (fun name number => state.number? Object.isCondition name = some number)
        names numbers ->
      state.run more = some (state.create object (result numbers)))
    (hdenotes : forall (objects : List Object) (number : Nat) (numbers : List Nat),
      objects[number]? = some (result numbers) ->
      DenotesAll objects numbers conditions -> Denotes objects number condition) :
    Builds (statements ++ more) [object] [condition] := by
  intro state hdistinct
  rw [declaredAll_append, hdeclared] at hdistinct ⊢
  rcases List.nodup_append.mp hdistinct with ⟨hnodup, _, hne⟩
  have hnew : object ∉ declaredAll statements :=
    fun hobject => hne object hobject object (List.mem_singleton_self object) rfl
  rcases h state hnodup with ⟨between, hbetween, hextends, hholds⟩
  rcases exists_numbers hholds with ⟨numbers, hnumbers, hparts⟩
  refine ⟨between.create object (result numbers), ?_, hextends.trans (Extends.create _ _ _), ?_⟩
  · rw [run_append, hbetween]
    exact hrun between numbers (not_mem_of_holds hholds hnew) hnumbers
  · have hlast : (between.create object (result numbers)).objects[between.objects.length]? =
        some (result numbers) := by
      simp [Execution.create]
    have hbound : (between.create object (result numbers)).bindings object =
        some between.objects.length := by
      simp [Execution.create]
    have hkept := hparts.of_isPrefix (Extends.create between object (result numbers)).objects
    have hmem : object ∈ declaredAll statements ++ [object] :=
      List.mem_append_right _ (List.mem_singleton_self object)
    exact .cons ⟨hmem, _, hbound, hdenotes _ _ _ hlast hkept⟩ .nil

theorem leaf (object : String) (l : Leaf) :
    Builds [.newCondition object l.objectKind, l.assignment object] [object] [.leaf l] := by
  refine create (fun _ => .leaf l.objectKind l) nil ?_ ?_ ?_
  · simp only [declaredAll_cons, declaredAll_nil, declared_assignment]
    rfl
  · intro state numbers _ _
    have hdetails : l.objectKind.created.setDetails l = some (.leaf l.objectKind l) := by
      rw [created_objectKind]
      exact if_pos rfl
    rw [run_cons, perform, Option.bind_some, run_singleton, perform_assignment, change_create,
      hdetails]
    rfl
  · intro objects number numbers hobject _
    exact .leaf hobject

theorem composed {object : String} {composition : Composition}
    (h : Builds statements names conditions) :
    Builds (statements ++ Statement.newCondition object (.composed composition) ::
      names.map (.addChild object)) [object] [.composed composition conditions] := by
  refine create (.composed composition) h ?_ ?_ ?_
  · rw [declaredAll_cons, declaredAll_map_addChild]
    rfl
  · intro state numbers hnew hnumbers
    rw [run_cons, perform, Option.bind_some, ObjectKind.created,
      run_addChildren hnew hnumbers, List.nil_append]
  · intro objects number numbers hobject hchildren
    exact .composed hobject hchildren

theorem negation {object : String} {name : Option String} {child : Option Condition}
    (h : Builds statements name.toList child.toList) :
    Builds (statements ++ Statement.blank :: .newCondition object .negation ::
      name.toList.map (.setNegated object)) [object] [.negation child] := by
  refine create (fun numbers => .negation numbers.head?) h ?_ ?_ ?_
  · cases name with
    | none | some name => rfl
  · intro state numbers hnew hnumbers
    cases name with
    | none =>
        cases hnumbers
        rfl
    | some name =>
        cases hnumbers with
        | cons hfirst hnone =>
            cases hnone
            have hne : name ≠ object :=
              fun heq => hnew (heq ▸ List.mem_singleton_self name)
            have hchild := number?_create (.negation none) hne hfirst
            simp [perform, ObjectKind.created, hchild, change_create, Object.setNegated]
  · intro objects number numbers hobject hparts
    cases child with
    | none =>
        cases hparts
        exact .unset hobject
    | some child =>
        cases hparts with
        | cons hchild hnone =>
            cases hnone
            exact .negation hobject hchild

end Builds

end Script

namespace Leaf

theorem builds_emit (scope : Scope) (l : Leaf) :
    Builds (l.emit scope).statements (l.emit scope).object.toList
      (Condition.leaf l).prune?.toList := by
  cases h : l.problem? with
  | some problem =>
      have hincomplete : ¬ l.IsComplete := by
        rw [← problem?_eq_none_iff, h]
        simp
      simp only [emit, h, Condition.prune?, if_neg hincomplete]
      exact Builds.problem problem
  | none =>
      simp only [emit, h, Condition.prune?, if_pos (problem?_eq_none_iff.mp h)]
      exact Builds.leaf _ l

end Leaf

namespace Condition

/-- The statements for a list of conditions, if those for each of them do what they should. -/
theorem builds_emitAll {conditions : List Condition}
    (h : forall condition, condition ∈ conditions -> forall scope,
      Builds (condition.emit scope).statements (condition.emit scope).object.toList
        condition.prune?.toList) (scope : Scope) :
    Builds (emitAll scope conditions).statements (emitAll scope conditions).objects
      (pruneAll conditions) := by
  induction conditions generalizing scope with
  | nil => exact Builds.nil
  | cons first rest ih =>
      have hfirst := h first List.mem_cons_self scope
      have hrest := ih (fun condition hmem => h condition (List.mem_cons_of_mem first hmem))
        (first.emit scope).scope
      exact hfirst.append hrest

/--
Emitted statements build what is left of the condition without its incomplete nodes, and nothing
if nothing is left.
-/
theorem builds_emit (condition : Condition) (scope : Scope) :
    Builds (condition.emit scope).statements (condition.emit scope).object.toList
      condition.prune?.toList := by
  induction condition generalizing scope with
  | leaf l => exact l.builds_emit scope
  | composed composition children ih => exact (builds_emitAll ih scope).composed
  | unset => exact Builds.problem .negatedUnset
  | negation child ih => exact (ih (scope.request "waitForNot")).negation

end Condition
end TutorialKit
