/-!
# Literals of the document format

Three enumerations are stored by name.  A name is taken exactly as written, without folding case or
trimming; an unknown one counts as the default where a tutorial is read.
-/

namespace TutorialKit

/-- What makes a reaction fire. -/
inductive Trigger where
  | optionSelected
  | conditionMet
  deriving DecidableEq, Inhabited

/-- What a reaction does once it fires. -/
inductive Response where
  | nextStep
  | customCode
  deriving DecidableEq, Inhabited

/-- How a composed condition joins its children. -/
inductive Composition where
  | all
  | any
  deriving DecidableEq, Inhabited

inductive LiteralKind where
  | trigger
  | response
  | composition
  deriving DecidableEq

structure UnknownLiteral where
  kind : LiteralKind
  text : String
  deriving DecidableEq

namespace LiteralKind

def describe : LiteralKind -> String
  | trigger => "trigger type"
  | response => "response type"
  | composition => "composition type"

end LiteralKind

namespace UnknownLiteral

def message (error : UnknownLiteral) : String :=
  "unknown " ++ error.kind.describe ++ ": " ++ error.text

end UnknownLiteral

namespace Trigger

def literal : Trigger -> String
  | optionSelected => "OptionSelected"
  | conditionMet => "ConditionMet"

def ofLiteral (text : String) : Except UnknownLiteral Trigger :=
  if text = "OptionSelected" then .ok optionSelected
  else if text = "ConditionMet" then .ok conditionMet
  else .error ⟨.trigger, text⟩

def ofLiteralOrDefault (text : String) : Trigger :=
  (ofLiteral text).toOption.getD default

@[simp] theorem ofLiteralOrDefault_literal (trigger : Trigger) :
    ofLiteralOrDefault trigger.literal = trigger := by
  cases trigger <;> rfl

end Trigger

namespace Response

def literal : Response -> String
  | nextStep => "NextStep"
  | customCode => "CustomCode"

def ofLiteral (text : String) : Except UnknownLiteral Response :=
  if text = "NextStep" then .ok nextStep
  else if text = "CustomCode" then .ok customCode
  else .error ⟨.response, text⟩

def ofLiteralOrDefault (text : String) : Response :=
  (ofLiteral text).toOption.getD default

@[simp] theorem ofLiteralOrDefault_literal (response : Response) :
    ofLiteralOrDefault response.literal = response := by
  cases response <;> rfl

end Response

namespace Composition

def literal : Composition -> String
  | all => "And"
  | any => "Or"

def ofLiteral (text : String) : Except UnknownLiteral Composition :=
  if text = "And" then .ok all
  else if text = "Or" then .ok any
  else .error ⟨.composition, text⟩

def ofLiteralOrDefault (text : String) : Composition :=
  (ofLiteral text).toOption.getD default

@[simp] theorem ofLiteralOrDefault_literal (composition : Composition) :
    ofLiteralOrDefault composition.literal = composition := by
  cases composition <;> rfl

end Composition

end TutorialKit
