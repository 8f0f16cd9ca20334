import TutorialKit.Proofs.Script.Setup

/-!
# The problems of a tutorial

What is missing in a tutorial, told from the tutorial alone and in the order in which an author
meets it.  Nothing is missing exactly if the tutorial is finished.
-/

namespace TutorialKit

open Script

/-!
# Conditions

A leaf lacks the first of its details that is not given; a composition lacks what its children lack.
-/

namespace Leaf

/-- The details that the author has to give, each with the problem that it is not given. -/
def requirements : Leaf -> List (String × Problem)
  | event receiver name => [(receiver, .eventReceiver), (name, .eventName)]
  | property object name value =>
      [(object, .propertyObject), (name, .propertyName), (value, .propertyValue)]
  | signal emitter name => [(emitter, .signalEmitter), (name, .signalName)]
  | window name => [(name, .windowName)]
  | stepActivation => []

def problems (leaf : Leaf) : List Problem :=
  ((leaf.requirements.find? fun requirement => requirement.1 = "").map Prod.snd).toList

theorem problems_eq (leaf : Leaf) : leaf.problems = leaf.problem?.toList := by
  cases leaf with
  | event receiver name =>
      by_cases hreceiver : receiver = "" <;> by_cases hname : name = "" <;>
        simp [problems, requirements, problem?, hreceiver, hname]
  | property object name value =>
      by_cases hobject : object = "" <;> by_cases hname : name = "" <;>
        by_cases hvalue : value = "" <;>
        simp [problems, requirements, problem?, hobject, hname, hvalue]
  | signal emitter name =>
      by_cases hemitter : emitter = "" <;> by_cases hname : name = "" <;>
        simp [problems, requirements, problem?, hemitter, hname]
  | window name =>
      by_cases hname : name = "" <;> simp [problems, requirements, problem?, hname]
  | stepActivation => rfl

theorem problems_eq_nil_iff {leaf : Leaf} : leaf.problems = [] ↔ leaf.IsComplete := by
  rw [problems_eq, Option.toList_eq_nil_iff, problem?_eq_none_iff]

end Leaf

namespace Condition

mutual

/-- What is missing in the condition, children in order. -/
def problems : Condition -> List Problem
  | leaf l => l.problems
  | composed _ children => problemsAll children
  | negation none => [.negatedUnset]
  | negation (some child) => problems child

def problemsAll : List Condition -> List Problem
  | [] => []
  | first :: rest => problems first ++ problemsAll rest

end

mutual

/-- No leaf lacks a detail and no negation its child. -/
def Finished : Condition -> Prop
  | leaf l => l.IsComplete
  | composed _ children => FinishedAll children
  | negation none => False
  | negation (some child) => Finished child

def FinishedAll : List Condition -> Prop
  | [] => True
  | first :: rest => Finished first ∧ FinishedAll rest

end

theorem problemsAll_eq_nil_iff {conditions : List Condition}
    (h : forall condition, condition ∈ conditions ->
      (condition.problems = [] ↔ condition.Finished)) :
    problemsAll conditions = [] ↔ FinishedAll conditions := by
  induction conditions with
  | nil => simp [problemsAll, FinishedAll]
  | cons first rest ih =>
      rw [List.forall_mem_cons] at h
      rw [problemsAll, FinishedAll, List.append_eq_nil_iff, h.1, ih h.2]

theorem problems_eq_nil_iff {condition : Condition} :
    condition.problems = [] ↔ condition.Finished := by
  induction condition with
  | leaf l => exact Leaf.problems_eq_nil_iff
  | composed composition children ih => exact problemsAll_eq_nil_iff ih
  | unset => simp [problems, Finished]
  | negation child ih => exact ih

theorem Finished.isSome_prune? {condition : Condition} (h : condition.Finished) :
    condition.prune?.isSome := by
  cases condition with
  | leaf l => simp [prune?, show l.IsComplete from h]
  | composed composition children => rfl
  | negation child =>
      cases child with
      | none => exact h.elim
      | some child => rfl

end Condition

/-!
# Reactions

A problem of the reaction itself hides those of its condition, which is not written then.
-/

namespace Reaction

def problems (reaction : Reaction) : List Problem :=
  if reaction.trigger = .conditionMet ∧ reaction.condition = none then [.conditionUnset]
  else if reaction.trigger = .optionSelected ∧ reaction.option = "" then [.optionName]
  else if reaction.response = .nextStep ∧ reaction.nextStep = "" then [.nextStep]
  else if reaction.trigger = .conditionMet then
    reaction.condition.toList.flatMap Condition.problems
  else []

instance (reaction : Reaction) : Decidable reaction.Complete :=
  decidable_of_iff _ complete_iff.symm

def missingCode (reaction : Reaction) : List Problem :=
  if reaction.Complete ∧ reaction.response = .customCode ∧ reaction.code = "" then [.handlerCode]
  else []

/-- The reaction has all that belongs to its trigger and its response. -/
structure Finished (reaction : Reaction) : Prop where
  condition : reaction.trigger = .conditionMet ->
    exists condition, reaction.condition = some condition ∧ condition.Finished
  option : reaction.trigger = .optionSelected -> reaction.option ≠ ""
  nextStep : reaction.response = .nextStep -> reaction.nextStep ≠ ""
  code : reaction.response = .customCode -> reaction.code ≠ ""

theorem Finished.complete {reaction : Reaction} (h : reaction.Finished) : reaction.Complete where
  option := h.option
  condition := by
    intro htrigger
    rcases h.condition htrigger with ⟨condition, hcondition, hfinished⟩
    rw [kept?, hcondition]
    exact hfinished.isSome_prune?
  nextStep := h.nextStep

theorem problems_eq (reaction : Reaction) :
    reaction.problems =
      match reaction.problem? with
      | some problem => [problem]
      | none =>
          if reaction.trigger = .conditionMet then
            reaction.condition.toList.flatMap Condition.problems
          else [] := by
  unfold problems problem?
  split_ifs <;> simp_all

theorem problems_eq_nil_iff {reaction : Reaction} :
    reaction.problems = [] ∧ reaction.missingCode = [] ↔ reaction.Finished := by
  constructor
  · rintro ⟨hproblems, hcode⟩
    rw [problems_eq] at hproblems
    cases hproblem : reaction.problem? with
    | some problem => simp [hproblem] at hproblems
    | none =>
        rcases problem?_eq_none_iff.mp hproblem with ⟨hset, hoption, hnext⟩
        have hcondition : reaction.trigger = .conditionMet ->
            exists condition, reaction.condition = some condition ∧ condition.Finished := by
          intro htrigger
          rcases Option.ne_none_iff_exists'.mp (hset htrigger) with ⟨condition, hcondition⟩
          refine ⟨condition, hcondition, Condition.problems_eq_nil_iff.mp ?_⟩
          simpa [hproblem, htrigger, hcondition] using hproblems
        -- the code is asked for once nothing else is missing
        have hcomplete : reaction.Complete := by
          refine complete_iff.mpr ⟨hproblem, fun htrigger => ?_⟩
          rcases hcondition htrigger with ⟨condition, hsome, hfinished⟩
          rw [kept?, hsome]
          exact hfinished.isSome_prune?
        refine ⟨hcondition, hoption, hnext, ?_⟩
        intro hresponse hempty
        rw [missingCode, if_pos ⟨hcomplete, hresponse, hempty⟩] at hcode
        cases hcode
  · intro h
    have hproblem : reaction.problem? = none := (complete_iff.mp h.complete).1
    constructor
    · rw [problems_eq, hproblem]
      by_cases htrigger : reaction.trigger = .conditionMet
      · rcases h.condition htrigger with ⟨condition, hcondition, hfinished⟩
        simpa [htrigger, hcondition] using Condition.problems_eq_nil_iff.mpr hfinished
      · exact if_neg htrigger
    · exact if_neg fun hmissing => h.code hmissing.2.1 hmissing.2.2

end Reaction

/-!
# Steps and tutorials

Steps without an id are not written at all, so nothing else of them is looked at.
-/

namespace Step

def problems (step : Step) : List Problem :=
  if step.id = "" then [.stepId]
  else
    (if step.text = "" then [.stepText] else []) ++ step.reactions.flatMap Reaction.problems ++
      step.reactions.flatMap Reaction.missingCode

structure Finished (step : Step) : Prop where
  id : step.id ≠ ""
  text : step.text ≠ ""
  reactions : forall reaction, reaction ∈ step.reactions -> reaction.Finished

theorem problems_eq_nil_iff {step : Step} : step.problems = [] ↔ step.Finished := by
  unfold problems
  by_cases hid : step.id = ""
  · rw [if_pos hid]
    exact ⟨fun h => absurd h (List.cons_ne_nil _ _), fun h => absurd hid h.id⟩
  · rw [if_neg hid, List.append_eq_nil_iff, List.append_eq_nil_iff, List.flatMap_eq_nil_iff,
      List.flatMap_eq_nil_iff]
    constructor
    · rintro ⟨⟨htext, hproblems⟩, hcode⟩
      refine ⟨hid, by simpa using htext, fun reaction hmem => ?_⟩
      exact Reaction.problems_eq_nil_iff.mp ⟨hproblems reaction hmem, hcode reaction hmem⟩
    · intro h
      refine ⟨⟨if_neg h.text, fun reaction hmem => ?_⟩, fun reaction hmem => ?_⟩
      · exact (Reaction.problems_eq_nil_iff.mpr (h.reactions reaction hmem)).1
      · exact (Reaction.problems_eq_nil_iff.mpr (h.reactions reaction hmem)).2

end Step

namespace Tutorial

def problems (tutorial : Tutorial) : List Problem :=
  (if tutorial.name = "" then [.tutorialName] else []) ++
    (if tutorial.description = "" then [.tutorialDescription] else []) ++
    tutorial.steps.flatMap Step.problems

structure Finished (tutorial : Tutorial) : Prop where
  name : tutorial.name ≠ ""
  description : tutorial.description ≠ ""
  steps : forall step, step ∈ tutorial.steps -> step.Finished

theorem problems_eq_nil_iff {tutorial : Tutorial} :
    tutorial.problems = [] ↔ tutorial.Finished := by
  unfold problems
  rw [List.append_eq_nil_iff, List.append_eq_nil_iff, List.flatMap_eq_nil_iff]
  constructor
  · rintro ⟨⟨hname, hdescription⟩, hsteps⟩
    refine ⟨by simpa using hname, by simpa using hdescription, fun step hmem => ?_⟩
    exact Step.problems_eq_nil_iff.mp (hsteps step hmem)
  · intro h
    refine ⟨⟨if_neg h.name, if_neg h.description⟩, fun step hmem => ?_⟩
    exact Step.problems_eq_nil_iff.mpr (h.steps step hmem)

end Tutorial

end TutorialKit
