import Mathlib.Data.List.Nodup
import TutorialKit.Proofs.Script.Setup

/-!
# Variables of a step

A name that is asked for again is given with a number, but a number may as well be the end of
another name: the second variable for `a` and the first one for `a2` are the same.  Two objects of a
step share a variable exactly where names meet in this way.
-/

namespace TutorialKit

open Script

namespace Script

/-!
# Digits

Numbers are compared by their decimal digits.
-/

theorem digitChar_injective {i j : Nat} (hi : i < 10) (hj : j < 10)
    (h : Nat.digitChar i = Nat.digitChar j) : i = j := by
  have hnat := congrArg Char.toNat h
  rw [Nat.toNat_digitChar_of_lt_ten hi, Nat.toNat_digitChar_of_lt_ten hj] at hnat
  omega

theorem toDigits_injective {i j : Nat} (h : Nat.toDigits 10 i = Nat.toDigits 10 j) : i = j := by
  have hvalue := congrArg (fun digits => Nat.ofDigitChars 10 digits 0) h
  simpa using hvalue

theorem toDigits_eq_append {i j : Nat} {front : List Char} (hfront : front ≠ [])
    (h : Nat.toDigits 10 j = front ++ Nat.toDigits 10 i) :
    exists m, 0 < m ∧ front = Nat.toDigits 10 m ∧ 10 * m + i <= j := by
  induction i using Nat.strongRecOn generalizing j with
  | ind i ih =>
      have hlength : 1 < (Nat.toDigits 10 j).length := by
        have hpos := List.length_pos_iff.mpr hfront
        have hdigits : 0 < (Nat.toDigits 10 i).length := Nat.length_toDigits_pos
        rw [h, List.length_append]
        omega
      have hj : 10 <= j := by
        by_contra hsmall
        rw [Nat.toDigits_of_lt_base (by omega)] at hlength
        simp at hlength
      rw [Nat.toDigits_of_base_le (by decide) hj] at h
      by_cases hi : i < 10
      · rw [Nat.toDigits_of_lt_base hi] at h
        rcases List.append_inj' h rfl with ⟨hrest, hlast⟩
        have hdigit := digitChar_injective (by omega) hi (List.singleton_inj.mp hlast)
        exact ⟨j / 10, by omega, hrest.symm, by omega⟩
      · have hdigits : Nat.toDigits 10 i = Nat.toDigits 10 (i / 10) ++ [Nat.digitChar (i % 10)] :=
          Nat.toDigits_of_base_le (by decide) (by omega)
        rw [hdigits, ← List.append_assoc] at h
        rcases List.append_inj' h rfl with ⟨hrest, hlast⟩
        have hdigit := digitChar_injective (by omega) (by omega) (List.singleton_inj.mp hlast)
        rcases ih (i / 10) (by omega) hrest with ⟨m, hm, rfl, hle⟩
        exact ⟨m, hm, rfl, by omega⟩

theorem toList_toString (n : Nat) : (toString n).toList = Nat.toDigits 10 n := by
  rw [Nat.toString_eq_repr, Nat.toList_repr]

theorem append_toString_ne (name : String) (n : Nat) : name ≠ name ++ toString n := by
  intro h
  have hlength := congrArg (fun text => text.toList.length) h
  have hdigits : 0 < (Nat.toDigits 10 n).length := Nat.length_toDigits_pos
  simp only [String.toList_append, List.length_append, toList_toString] at hlength
  omega

namespace Scope

/-!
# Numbered names

The first use of a name has no number, and the numbers begin with two.
-/

theorem numbered_injective {name : String} {i j : Nat} (hi : 1 <= i) (hj : 1 <= j)
    (h : numbered name i = numbered name j) : i = j := by
  unfold numbered at h
  split_ifs at h with hione hjone hjone
  · omega
  · exact absurd h (append_toString_ne name j)
  · exact absurd h.symm (append_toString_ne name i)
  · have hdigits := congrArg String.toList (String.append_right_inj name |>.mp h)
    rw [toList_toString, toList_toString] at hdigits
    exact toDigits_injective hdigits

/-- Numbers make a longer and a shorter name equal if the longer one is the shorter one with a
number, which then is the number of the shorter name or begins it. -/
theorem exists_number_of_numbered_eq {name other : String} {i j : Nat} (hne : name ≠ other)
    (hlength : name.toList.length <= other.toList.length)
    (h : numbered name i = numbered other j) :
    exists m, other = name ++ toString m ∧
      (j <= 1 ∧ m = i ∧ 2 <= i ∨ 2 <= j ∧ 0 < m ∧ 10 * m + j <= i) := by
  unfold numbered at h
  split_ifs at h with hi hj hj
  · exact absurd h hne
  · have htexts := congrArg (fun text => text.toList.length) h
    have hdigits : 0 < (Nat.toDigits 10 j).length := Nat.length_toDigits_pos
    simp only [String.toList_append, List.length_append, toList_toString] at htexts
    omega
  · exact ⟨i, h.symm, .inl ⟨hj, rfl, by omega⟩⟩
  · have htexts := congrArg String.toList h
    simp only [String.toList_append, toList_toString] at htexts
    rcases List.append_eq_append_iff.mp htexts with ⟨front, hother, hdigits⟩ |
      ⟨front, hname, -⟩
    · have hfront : front ≠ [] := by
        rintro rfl
        rw [List.append_nil] at hother
        exact hne (String.toList_inj.mp hother.symm)
      rcases toDigits_eq_append hfront hdigits with ⟨m, hm, rfl, hle⟩
      refine ⟨m, String.toList_inj.mp ?_, .inr ⟨by omega, hm, hle⟩⟩
      rw [String.toList_append, toList_toString]
      exact hother
    · have hnothing : front = [] := by
        have hboth := congrArg List.length hname
        rw [List.length_append] at hboth
        exact List.length_eq_zero_iff.mp (by omega)
      rw [hnothing, List.append_nil] at hname
      exact absurd (String.toList_inj.mp hname) hne

/-!
# Names asked for one after the other

What a name is given depends on how often it has been asked for, and not on the other names.
-/

def requestAll (scope : Scope) (names : List String) : Scope :=
  names.foldl request scope

theorem requestAll_append (scope : Scope) (names others : List String) :
    scope.requestAll (names ++ others) = (scope.requestAll names).requestAll others :=
  List.foldl_append

def uses (scope : Scope) : List String -> List (String × Nat)
  | [] => []
  | name :: rest => (name, scope.requested.count name + 1) :: (scope.request name).uses rest

/-- The variables that are given for the names. -/
def assigned (scope : Scope) (names : List String) : List String :=
  (scope.uses names).map fun use => numbered use.1 use.2

theorem assigned_cons (scope : Scope) (name : String) (rest : List String) :
    scope.assigned (name :: rest) = scope.variableFor name :: (scope.request name).assigned rest :=
  rfl

theorem uses_append (scope : Scope) (names others : List String) :
    scope.uses (names ++ others) = scope.uses names ++ (scope.requestAll names).uses others := by
  induction names generalizing scope with
  | nil => rfl
  | cons name rest ih => exact congrArg (List.cons _) (ih (scope.request name))

theorem assigned_append (scope : Scope) (names others : List String) :
    scope.assigned (names ++ others) =
      scope.assigned names ++ (scope.requestAll names).assigned others := by
  rw [assigned, uses_append, List.map_append]
  rfl

theorem mem_uses {scope : Scope} {names : List String} {name : String} {n : Nat} :
    (name, n) ∈ scope.uses names ↔
      scope.requested.count name < n ∧ n <= scope.requested.count name + names.count name := by
  induction names generalizing scope with
  | nil =>
      simp only [uses, List.not_mem_nil, List.count_nil, false_iff]
      omega
  | cons first rest ih =>
      rw [uses, List.mem_cons, ih, requested_request, Prod.mk.injEq]
      by_cases hname : first = name
      · subst hname
        rw [List.count_cons_self, List.count_cons_self]
        simp only [true_and]
        omega
      · rw [List.count_cons_of_ne hname, List.count_cons_of_ne hname]
        simp only [Ne.symm hname, false_and, false_or]

theorem nodup_uses (scope : Scope) (names : List String) : (scope.uses names).Nodup := by
  induction names generalizing scope with
  | nil => exact List.nodup_nil
  | cons name rest ih =>
      rw [uses, List.nodup_cons]
      refine ⟨?_, ih (scope.request name)⟩
      rw [mem_uses, requested_request, List.count_cons_self]
      omega

/-!
# Names that meet

Two uses of one name never meet.  With different names one is longer, and goes on with digits.
-/

/--
The second name is the first one with a number that the first one is given, too.  If the number is
one, both names are given further digits: the second name its second number, a two, and the first
name its twelfth.
-/
def Clash (names : List String) (name other : String) : Prop :=
  (exists m, other = name ++ toString m ∧ 2 <= m ∧ m <= names.count name ∧ 1 <= names.count other) ∨
    (other = name ++ "1" ∧ 12 <= names.count name ∧ 2 <= names.count other)

theorem clash_of_numbered_eq {names : List String} {name other : String} {i j : Nat}
    (hne : name ≠ other) (hlength : name.toList.length <= other.toList.length)
    (hi : i <= names.count name) (hj : 1 <= j ∧ j <= names.count other)
    (h : numbered name i = numbered other j) : Clash names name other := by
  rcases exists_number_of_numbered_eq hne hlength h with
    ⟨m, hother, ⟨-, rfl, htwo⟩ | ⟨htwo, hm, hle⟩⟩
  · exact .inl ⟨m, hother, htwo, hi, by omega⟩
  · by_cases hone : m = 1
    · subst hone
      exact .inr ⟨hother, by omega, by omega⟩
    · exact .inl ⟨m, hother, by omega, by omega, by omega⟩

/-- The variables of a step are distinct unless two of its names meet. -/
theorem nodup_assigned_iff {names : List String} :
    (empty.assigned names).Nodup ↔ ¬ exists name other, Clash names name other := by
  rw [assigned, List.nodup_map_iff_inj_on (nodup_uses empty names)]
  have hmem : forall {name n}, (name, n) ∈ empty.uses names ↔ 1 <= n ∧ n <= names.count name := by
    intro name n
    rw [mem_uses]
    simp [empty, Nat.lt_iff_add_one_le]
  constructor
  · intro hinjective
    rintro ⟨name, other, ⟨m, rfl, htwo, hm, hother⟩ | ⟨rfl, htwelve, htwo⟩⟩
    · have hsame : numbered name m = numbered (name ++ toString m) 1 := by
        rw [numbered, if_neg (by omega), numbered, if_pos (by omega)]
      have heq := hinjective (name, m) (hmem.mpr ⟨by omega, hm⟩) (name ++ toString m, 1)
        (hmem.mpr ⟨by omega, hother⟩) hsame
      exact append_toString_ne name m (congrArg Prod.fst heq)
    · have hsame : numbered name 12 = numbered (name ++ "1") 2 := by
        rw [numbered, if_neg (by omega), numbered, if_neg (by omega), String.append_assoc]
        rfl
      have heq := hinjective (name, 12) (hmem.mpr ⟨by omega, htwelve⟩) (name ++ "1", 2)
        (hmem.mpr ⟨by omega, htwo⟩) hsame
      exact append_toString_ne name 1 (congrArg Prod.fst heq)
  · rintro hclash ⟨name, i⟩ hi ⟨other, j⟩ hj hsame
    rw [hmem] at hi hj
    by_cases hname : name = other
    · subst hname
      rw [numbered_injective hi.1 hj.1 hsame]
    · exfalso
      rcases Nat.le_total name.toList.length other.toList.length with hlength | hlength
      · exact hclash ⟨name, other, clash_of_numbered_eq hname hlength hi.2 hj hsame⟩
      · exact hclash ⟨other, name,
          clash_of_numbered_eq (Ne.symm hname) hlength hj.2 hi hsame.symm⟩

end Scope

/-!
# Names that statements are made from

A negation asks for its name before its child does, though its variable is declared last.
-/

/-- The statements declare the variables for the names, which are asked for one after the other. -/
structure Requests (scope : Scope) (names : List String) (later : Scope)
    (statements : List Statement) : Prop where
  reached : later = scope.requestAll names
  declared : (declaredAll statements).Perm (scope.assigned names)

namespace Requests

variable {scope between later : Scope} {names others : List String}
  {first second statements : List Statement}

theorem none (h : declaredAll statements = []) : Requests scope [] scope statements where
  reached := rfl
  declared := by
    rw [h]
    exact List.Perm.refl _

theorem append (hfirst : Requests scope names between first)
    (hsecond : Requests between others later second) :
    Requests scope (names ++ others) later (first ++ second) where
  reached := by
    rw [Scope.requestAll_append, ← hfirst.reached]
    exact hsecond.reached
  declared := by
    rw [declaredAll_append, Scope.assigned_append, ← hfirst.reached]
    exact hfirst.declared.append hsecond.declared

theorem one {name : String} (h : declaredAll statements = [scope.variableFor name]) :
    Requests scope [name] (scope.request name) statements where
  reached := rfl
  declared := by
    rw [h]
    exact List.Perm.refl _

/-- A name may be asked for first and its variable be declared last. -/
theorem declareLast {name : String} (h : Requests (scope.request name) names later first)
    (hsecond : declaredAll second = [scope.variableFor name]) :
    Requests scope (name :: names) later (first ++ second) where
  reached := h.reached
  declared := by
    rw [declaredAll_append, hsecond, Scope.assigned_cons]
    exact (List.perm_append_singleton _ _).trans (h.declared.cons _)

end Requests
end Script

namespace Condition

mutual

def requested : Condition -> List String
  | leaf l => if l.IsComplete then [l.objectName] else []
  | composed composition children =>
      requestedAll children ++ ["waitFor" ++ composition.literal]
  | negation none => []
  | negation (some child) => "waitForNot" :: requested child

def requestedAll : List Condition -> List String
  | [] => []
  | first :: rest => requested first ++ requestedAll rest

end

theorem requests_emitAll {conditions : List Condition}
    (h : forall condition, condition ∈ conditions -> forall scope,
      Requests scope condition.requested (condition.emit scope).scope
        (condition.emit scope).statements) (scope : Scope) :
    Requests scope (requestedAll conditions) (emitAll scope conditions).scope
      (emitAll scope conditions).statements := by
  induction conditions generalizing scope with
  | nil => exact .none rfl
  | cons first rest ih =>
      have hfirst := h first List.mem_cons_self scope
      have hrest := ih (fun condition hmem => h condition (List.mem_cons_of_mem first hmem))
        (first.emit scope).scope
      have hblank : Requests (first.emit scope).scope [] (first.emit scope).scope [.blank] :=
        .none rfl
      exact hfirst.append (hblank.append hrest)

theorem requests_emit (condition : Condition) (scope : Scope) :
    Requests scope condition.requested (condition.emit scope).scope
      (condition.emit scope).statements := by
  induction condition generalizing scope with
  | leaf l =>
      cases hproblem : l.problem? with
      | some problem =>
          have hincomplete : ¬ l.IsComplete := by
            rw [← Leaf.problem?_eq_none_iff, hproblem]
            simp
          simp only [requested, if_neg hincomplete, emit, Leaf.emit, hproblem]
          exact .none rfl
      | none =>
          simp only [requested, if_pos (Leaf.problem?_eq_none_iff.mp hproblem), emit, Leaf.emit,
            hproblem]
          apply Requests.one
          simp only [declaredAll_cons, Builds.declared_assignment]
          rfl
  | composed composition children ih =>
      refine (requests_emitAll ih scope).append (.one ?_)
      rw [declaredAll_cons, Builds.declaredAll_map_addChild]
      rfl
  | unset => exact .none rfl
  | negation child ih =>
      refine (ih (scope.request "waitForNot")).declareLast ?_
      cases (child.emit (scope.request "waitForNot")).object with
      | none => rfl
      | some object => rfl

end Condition

namespace Reaction

def requested (reaction : Reaction) : List String :=
  match reaction.problem?, reaction.trigger with
  | some _, _ => []
  | none, .optionSelected => [Text.lowerCamelCase reaction.option ++ "Option"]
  | none, .conditionMet => reaction.condition.toList.flatMap Condition.requested

theorem requests_registerCondition (step : String) (scope : Scope) (reaction : Reaction)
    (condition : Condition) :
    Requests scope condition.requested (reaction.registerCondition step scope condition).scope
      (reaction.registerCondition step scope condition).statements := by
  have hemit := condition.requests_emit scope
  cases hobject : (condition.emit scope).object with
  | none => simpa only [registerCondition, hobject] using hemit
  | some object =>
      simp only [registerCondition, hobject]
      rw [← List.append_nil condition.requested]
      exact hemit.append (.none rfl)

theorem requests_register (step : String) (scope : Scope) (reaction : Reaction) :
    Requests scope reaction.requested (reaction.register step scope).scope
      (reaction.register step scope).statements := by
  rcases register_cases step scope reaction with ⟨problem, hproblem, hregister⟩ |
    ⟨hproblem, htrigger, hregister⟩ | ⟨condition, hproblem, htrigger, hcondition, hregister⟩
  · rw [hregister]
    simp only [requested, hproblem]
    exact .none rfl
  · rw [hregister]
    simp only [requested, hproblem, htrigger]
    exact .one rfl
  · rw [hregister]
    simp only [requested, hproblem, htrigger, hcondition, Option.toList_some,
      List.flatMap_singleton]
    exact requests_registerCondition step scope reaction condition

theorem requests_registerAll (step : String) (closed : Bool) (scope : Scope)
    (reactions : List Reaction) :
    Requests scope (reactions.flatMap requested) (registerAll step closed scope reactions).scope
      (registerAll step closed scope reactions).statements := by
  induction reactions generalizing scope with
  | nil => exact .none rfl
  | cons first rest ih =>
      have hfirst := (requests_register step scope first).append
        (.none (declaredAll_gap (closed || !rest.isEmpty)))
      rw [List.append_nil] at hfirst
      exact hfirst.append (ih (first.register step scope).scope)

end Reaction

namespace Step

/-- The names that variables of the step are asked for, in order. -/
def requested (step : Step) : List String :=
  if step.id = "" then [] else step.reactions.flatMap Reaction.requested

theorem declaredAll_setupStatements_perm (step : Step) :
    (declaredAll (step.setupStatements Scope.empty)).Perm
      (Scope.empty.assigned step.requested) := by
  by_cases hid : step.id = ""
  · rw [setupStatements, blocks, requested, if_pos hid, if_pos hid]
    exact List.Perm.refl _
  · rw [setupStatements_eq hid, requested, if_neg hid]
    exact (Reaction.requests_registerAll _ _ _ _).declared

/--
The set-up function of a step declares no variable twice exactly if no name that a variable is
asked for is another such name with one of that name's own numbers at its end.
-/
theorem setup_variables_distinct_iff (step : Step) :
    (declaredAll (step.setupStatements Scope.empty)).Nodup ↔
      ¬ exists name other, Scope.Clash step.requested name other := by
  rw [step.declaredAll_setupStatements_perm.nodup_iff]
  exact Scope.nodup_assigned_iff

def numberedReceiver : Step :=
  { id := "start"
    reactions := ["a", "a", "a2"].map fun receiver =>
      { trigger := .conditionMet, condition := some (.leaf (.event receiver "press"))
        response := .nextStep, nextStep := "end" } }

/-- The second object for `a` and the object for `a2` share a variable. -/
theorem numbered_receiver_shares_variable :
    declaredAll (numberedReceiver.setupStatements Scope.empty) =
        ["waitForPressInA", "waitForPressInA2", "waitForPressInA2"] ∧
      ¬ (declaredAll (numberedReceiver.setupStatements Scope.empty)).Nodup := by
  have hdeclared : declaredAll (numberedReceiver.setupStatements Scope.empty) =
      ["waitForPressInA", "waitForPressInA2", "waitForPressInA2"] := by
    decide
  refine ⟨hdeclared, ?_⟩
  rw [hdeclared]
  decide

end Step
end TutorialKit
