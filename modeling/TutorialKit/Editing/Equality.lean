import TutorialKit.Editing.LiveTutorial

/-!
# Equality of open documents

Two open documents are equal if all their fields are, lists in their order.  Keys and listeners
take no part.
-/

namespace TutorialKit

namespace LiveCondition

mutual

def beq : LiveCondition -> LiveCondition -> Bool
  | leaf _ l, leaf _ m => l == m
  | composed _ composition children, composed _ composition' children' =>
      composition == composition' && beqAll children children'
  | negation _ none, negation _ none => true
  | negation _ (some child), negation _ (some child') => beq child child'
  | _, _ => false

def beqAll : List LiveCondition -> List LiveCondition -> Bool
  | [], [] => true
  | condition :: rest, condition' :: rest' => beq condition condition' && beqAll rest rest'
  | _, _ => false

end

instance : BEq LiveCondition := ⟨beq⟩

end LiveCondition

instance : BEq LiveReaction where
  beq first second :=
    first.trigger == second.trigger && first.option == second.option &&
      first.condition == second.condition && first.response == second.response &&
      first.nextStep == second.nextStep && first.code == second.code

instance : BEq LiveStep where
  beq first second :=
    first.id == second.id && first.text == second.text && first.setup == second.setup &&
      first.tearDown == second.tearDown && first.reactions == second.reactions

instance : BEq LiveTutorial where
  beq first second :=
    first.name == second.name && first.description == second.description &&
      first.license == second.license && first.setup == second.setup &&
      first.tearDown == second.tearDown && first.steps == second.steps

/-!
# Equality is that of contents

Two open documents, or parts of them, are equal just if what is kept of them is the same.
-/

namespace LiveCondition

mutual

theorem beq_iff_content_eq : (condition other : LiveCondition) ->
    (condition.beq other = true ↔ condition.content = other.content)
  | leaf _ l, other => by
      cases other with
      | leaf _ m => simp [beq, content]
      | composed _ composition children => simp [beq, content]
      | negation _ child => cases child <;> simp [beq, content]
  | composed _ composition children, other => by
      cases other with
      | leaf _ m => simp [beq, content]
      | composed _ composition' children' =>
          simp [beq, content, beqAll_iff_content_eq children children']
      | negation _ child => cases child <;> simp [beq, content]
  | negation _ none, other => by
      cases other with
      | leaf _ m => simp [beq, content]
      | composed _ composition children => simp [beq, content]
      | negation _ child => cases child <;> simp [beq, content]
  | negation _ (some child), other => by
      cases other with
      | leaf _ m => simp [beq, content]
      | composed _ composition children => simp [beq, content]
      | negation _ child' =>
          cases child' with
          | none => simp [beq, content]
          | some child' => simp [beq, content, beq_iff_content_eq child child']

theorem beqAll_iff_content_eq : (conditions others : List LiveCondition) ->
    (beqAll conditions others = true ↔ contentAll conditions = contentAll others)
  | [], others => by cases others <;> simp [beqAll, contentAll]
  | condition :: rest, others => by
      cases others with
      | nil => simp [beqAll, contentAll]
      | cons other others =>
          simp [beqAll, contentAll, beq_iff_content_eq condition other,
            beqAll_iff_content_eq rest others]

end

theorem beq_iff {condition other : LiveCondition} :
    (condition == other) = true ↔ condition.content = other.content :=
  beq_iff_content_eq condition other

end LiveCondition

theorem beq_iff_map_eq {α β : Type} [BEq α] {content : α -> β}
    (h : forall a b : α, (a == b) = true ↔ content a = content b) (items others : List α) :
    (items == others) = true ↔ items.map content = others.map content := by
  induction items generalizing others with
  | nil => cases others <;> simp
  | cons first rest ih =>
      cases others with
      | nil => simp
      | cons other others =>
          rw [List.cons_beq_cons, Bool.and_eq_true, h, ih, List.map_cons, List.map_cons,
            List.cons.injEq]

theorem beq_option_iff {α β : Type} [BEq α] {content : α -> β}
    (h : forall a b : α, (a == b) = true ↔ content a = content b) (first second : Option α) :
    (first == second) = true ↔ first.map content = second.map content := by
  cases first with
  | none => cases second <;> simp
  | some a =>
      cases second with
      | none => simp
      | some b => simp [h]

namespace LiveReaction

theorem beq_iff {reaction other : LiveReaction} :
    (reaction == other) = true ↔ reaction.content = other.content := by
  have hcondition := beq_option_iff (fun _ _ => LiveCondition.beq_iff) reaction.condition
    other.condition
  change (_ && _ && _ && _ && _ && _) = true ↔ _
  simp only [Bool.and_eq_true, beq_iff_eq, hcondition, content, Reaction.mk.injEq, and_assoc]

end LiveReaction

namespace LiveStep

theorem beq_iff {step other : LiveStep} :
    (step == other) = true ↔ step.content = other.content := by
  have hreactions := beq_iff_map_eq (fun _ _ => LiveReaction.beq_iff) step.reactions
    other.reactions
  change (_ && _ && _ && _ && _) = true ↔ _
  simp only [Bool.and_eq_true, beq_iff_eq, hreactions, content, Step.mk.injEq, and_assoc]

end LiveStep

namespace LiveTutorial

theorem beq_iff {tutorial other : LiveTutorial} :
    (tutorial == other) = true ↔ tutorial.content = other.content := by
  have hsteps := beq_iff_map_eq (fun _ _ => LiveStep.beq_iff) tutorial.steps other.steps
  change (_ && _ && _ && _ && _ && _) = true ↔ _
  simp only [Bool.and_eq_true, beq_iff_eq, hsteps, content, Tutorial.mk.injEq, and_assoc]

end LiveTutorial

end TutorialKit
