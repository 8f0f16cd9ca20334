import TutorialKit.Outline
import TutorialKit.Proofs.Script.Check
import TutorialKit.Proofs.Script.Functions

/-!
# Where reactions lead

A script creates steps, adds them to the tutorial and passes identifiers of steps that come next.
If the outline of a tutorial says of no reaction that its next step is missing, then every
identifier that is passed belongs to a step that is created and added.
-/

namespace TutorialKit

open Script

namespace Script

def Target.nextStep? : Target -> Option String
  | step id => some id
  | handler _ => none

def Statement.nextStep? (statement : Statement) : Option String :=
  statement.target?.bind Target.nextStep?

/-- What a script does with steps. -/
inductive Link where
  | created (object id : String)
  | passed (id : String)
  | added (object : String)
  deriving DecidableEq

namespace Block

def nextSteps : Block -> List String
  | function _ _ statements _ => statements.filterMap Statement.nextStep?
  | _ => []

def links : Block -> List Link
  | newStep object id => [.created object id]
  | addStep object => [.added object]
  | block => block.nextSteps.map .passed

theorem passed_mem_links {block : Block} {id : String} :
    Link.passed id ∈ block.links ↔ id ∈ block.nextSteps := by
  cases block <;> simp [links, nextSteps]

theorem created_mem_links {block : Block} {object id : String} :
    Link.created object id ∈ block.links ↔ block = .newStep object id := by
  cases block <;> simp [links, nextSteps, eq_comm]

end Block
end Script

/-!
# Links of a step

The blocks of a step hold no links but those that belong to its reactions and to the step itself.
-/

namespace Reaction

/-- The next step that the reaction passes on. -/
def destination? (reaction : Reaction) : Option String :=
  if reaction.response = .nextStep ∧ reaction.Complete then some reaction.nextStep else none

theorem destination?_eq_some_iff {reaction : Reaction} {id : String} :
    reaction.destination? = some id ↔
      reaction.response = .nextStep ∧ reaction.Complete ∧ reaction.nextStep = id := by
  unfold destination?
  split_ifs with h
  · simp [h]
  · simp only [false_iff]
    exact fun hall => h ⟨hall.1, hall.2.1⟩

theorem nextStep?_target (reaction : Reaction) (handler : String) (hcomplete : reaction.Complete) :
    (reaction.target handler).nextStep? = reaction.destination? := by
  unfold target destination?
  cases reaction.response with
  | nextStep => simp [hcomplete, Target.nextStep?]
  | customCode => simp [Target.nextStep?]

theorem destination?_of_incomplete {reaction : Reaction} (h : ¬ reaction.Complete) :
    reaction.destination? = none :=
  if_neg fun hboth => h hboth.2

theorem nextSteps_register (step : String) (scope : Scope) (reaction : Reaction) :
    (reaction.register step scope).statements.filterMap Statement.nextStep? =
      reaction.destination?.toList := by
  rcases register_cases step scope reaction with ⟨problem, hproblem, hregister⟩ |
    ⟨hproblem, htrigger, hregister⟩ | ⟨condition, hproblem, htrigger, hcondition, hregister⟩
  · have hincomplete : ¬ reaction.Complete := by
      rw [complete_iff, hproblem]
      simp
    rw [hregister, destination?_of_incomplete hincomplete]
    rfl
  · have hcomplete : reaction.Complete := by
      rw [complete_iff, htrigger]
      exact ⟨hproblem, by simp⟩
    rw [hregister]
    exact (filterMap_singleton Statement.nextStep? _).trans
      (congrArg Option.toList (nextStep?_target reaction _ hcomplete))
  · have hcomplete : reaction.Complete ↔ (condition.emit scope).object.isSome := by
      rw [complete_iff, htrigger, kept?, hcondition, condition.isSome_object_emit scope]
      simp [hproblem]
    have hemit : (condition.emit scope).statements.filterMap Statement.nextStep? = [] :=
      List.filterMap_eq_nil_iff.mpr fun statement hmem => by
        rw [Statement.nextStep?, condition.target?_emit scope hmem]
        rfl
    rw [hregister, registerCondition]
    cases hobject : (condition.emit scope).object with
    | none =>
        rw [destination?_of_incomplete (by simp [hcomplete, hobject])]
        exact hemit
    | some object =>
        rw [List.filterMap_append, hemit, List.nil_append, filterMap_singleton]
        exact congrArg Option.toList
          (nextStep?_target reaction _ (hcomplete.mpr (by rw [hobject]; rfl)))

theorem nextSteps_registerAll (step : String) (closed : Bool) (scope : Scope)
    (reactions : List Reaction) :
    (registerAll step closed scope reactions).statements.filterMap Statement.nextStep? =
      reactions.filterMap destination? := by
  induction reactions generalizing scope with
  | nil => rfl
  | cons first rest ih =>
      have hblank : (if closed || !rest.isEmpty then [Statement.blank] else []).filterMap
          Statement.nextStep? = [] := by
        split <;> rfl
      simp only [registerAll, List.filterMap_append, nextSteps_register, hblank, ih,
        List.append_nil, List.filterMap_cons]
      cases first.destination? with
      | none => rfl
      | some id => rfl

end Reaction

namespace Step

/-- What the script does for the step: it creates it, passes next steps on and adds it. -/
def links (step : Step) : List Link :=
  if step.id = "" then []
  else
    .created step.objectName step.id ::
      ((step.reactions.filterMap Reaction.destination?).map .passed ++ [.added step.objectName])

theorem links_setupBlocks (step : Step) :
    (step.setupBlocks Scope.empty).2.flatMap Block.links =
      (step.reactions.filterMap Reaction.destination?).map .passed := by
  by_cases hidle : (step.setup = "" && step.reactions.isEmpty) = true
  · rw [setupBlocks, if_pos hidle]
    rw [Bool.and_eq_true, List.isEmpty_iff] at hidle
    rw [hidle.2]
    rfl
  · have hhandlers : (step.registered Scope.empty).handlers.flatMap (fun handler =>
        handler.blocks.flatMap Block.links) = [] := by
      rw [List.flatMap_eq_nil_iff]
      intro handler _
      unfold Handler.blocks
      split <;> rfl
    rw [setupBlocks_of_not_idle hidle, List.flatMap_cons, List.flatMap_cons, List.flatMap_assoc,
      hhandlers, ← Reaction.nextSteps_registerAll step.objectName (step.setup != "") Scope.empty]
    simp [Block.links, Block.nextSteps, registered]

theorem links_blocks (step : Step) :
    (step.blocks Scope.empty).2.flatMap Block.links = step.links := by
  by_cases hid : step.id = ""
  · rw [blocks, links, if_pos hid, if_pos hid]
    rfl
  · have htext : step.textBlock.links = [] := by
      unfold textBlock
      split <;> rfl
    have htearDown : step.tearDownBlocks.flatMap Block.links = [] := by
      unfold tearDownBlocks
      split <;> rfl
    rw [blocks_of_id hid, links, if_neg hid]
    simp only [List.flatMap_append, List.flatMap_cons, List.flatMap_nil, links_setupBlocks,
      htearDown, htext]
    simp [Block.links, Block.nextSteps]

end Step

namespace Tutorial

theorem links_headBlocks (tutorial : Tutorial) :
    tutorial.headBlocks.flatMap Block.links = [] := by
  rw [List.flatMap_eq_nil_iff]
  unfold headBlocks informationBlocks functionBlocks
  split_ifs <;> simp [Block.links, Block.nextSteps]

/-- The script does for every step in turn what is to be done for it, and nothing else. -/
theorem links_scriptBlocks (tutorial : Tutorial) :
    tutorial.scriptBlocks.flatMap Block.links = tutorial.steps.flatMap Step.links := by
  rw [scriptBlocks, Step.blocksAll_empty, List.flatMap_append, links_headBlocks,
    List.flatMap_assoc]
  simp only [Step.links_blocks, List.nil_append]

/-!
# Links of a tutorial

The outline looks for a step by its identifier, and so does whoever runs the script.
-/

/-- The identifiers that the script passes as those of next steps. -/
def nextSteps (tutorial : Tutorial) : List String :=
  tutorial.scriptBlocks.flatMap Block.nextSteps

theorem mem_nextSteps_iff {tutorial : Tutorial} {id : String} :
    id ∈ tutorial.nextSteps ↔
      exists step, step ∈ tutorial.steps ∧ step.id ≠ "" ∧
        exists reaction, reaction ∈ step.reactions ∧ reaction.destination? = some id := by
  have hlinks : id ∈ tutorial.nextSteps ↔
      Link.passed id ∈ tutorial.scriptBlocks.flatMap Block.links := by
    simp only [nextSteps, List.mem_flatMap, Block.passed_mem_links]
  have hstep (step : Step) : Link.passed id ∈ step.links ↔
      step.id ≠ "" ∧
        exists reaction, reaction ∈ step.reactions ∧ reaction.destination? = some id := by
    unfold Step.links
    split_ifs with hid <;> simp [hid]
  rw [hlinks, links_scriptBlocks, List.mem_flatMap]
  simp only [hstep]

theorem newStep_mem_scriptBlocks_iff {tutorial : Tutorial} {object id : String} :
    Block.newStep object id ∈ tutorial.scriptBlocks ↔
      exists step, step ∈ tutorial.steps ∧ step.id ≠ "" ∧ step.objectName = object ∧
        step.id = id := by
  have hlinks : Block.newStep object id ∈ tutorial.scriptBlocks ↔
      Link.created object id ∈ tutorial.scriptBlocks.flatMap Block.links := by
    simp [List.mem_flatMap, Block.created_mem_links]
  have hstep (step : Step) : Link.created object id ∈ step.links ↔
      step.id ≠ "" ∧ step.objectName = object ∧ step.id = id := by
    unfold Step.links
    split_ifs with hid <;> simp [hid, eq_comm]
  rw [hlinks, links_scriptBlocks, List.mem_flatMap]
  simp only [hstep]

theorem scriptBlocks_split {tutorial : Tutorial} {step : Step} (hmem : step ∈ tutorial.steps)
    (hid : step.id ≠ "") :
    exists front middle back, tutorial.scriptBlocks =
      front ++ Block.newStep step.objectName step.id ::
        (middle ++ Block.addStep step.objectName :: back) := by
  rcases List.append_of_mem hmem with ⟨before, later, hsteps⟩
  rw [scriptBlocks, Step.blocksAll_empty, hsteps, List.flatMap_append, List.flatMap_cons,
    Step.blocks_of_id hid]
  refine ⟨tutorial.headBlocks ++ before.flatMap (fun step => (step.blocks Scope.empty).2) ++
      [Block.stepComment step.id],
    [step.textBlock, Block.gap] ++ (step.setupBlocks Scope.empty).2 ++ step.tearDownBlocks,
    Block.gap :: later.flatMap (fun step => (step.blocks Scope.empty).2), ?_⟩
  simp

theorem hasStep_iff {tutorial : Tutorial} {id : String} :
    tutorial.hasStep id = true ↔ exists step, step ∈ tutorial.steps ∧ step.id = id := by
  simp [hasStep]

/-- A next step that is passed on is flagged as missing exactly if no such step is created. -/
theorem nextStepMissing_iff {tutorial : Tutorial} {reaction : Reaction} {id : String}
    (h : reaction.destination? = some id) :
    (reaction.outline tutorial).nextStepMissing = true ↔
      forall object, Block.newStep object id ∉ tutorial.scriptBlocks := by
  rcases Reaction.destination?_eq_some_iff.mp h with ⟨hresponse, hcomplete, rfl⟩
  have hnext : reaction.nextStep ≠ "" := hcomplete.nextStep hresponse
  have hcreated : tutorial.hasStep reaction.nextStep = true ↔
      exists object, Block.newStep object reaction.nextStep ∈ tutorial.scriptBlocks := by
    rw [hasStep_iff]
    constructor
    · rintro ⟨step, hmem, hid⟩
      exact ⟨step.objectName,
        newStep_mem_scriptBlocks_iff.mpr ⟨step, hmem, hid ▸ hnext, rfl, hid⟩⟩
    · rintro ⟨object, hmem⟩
      rcases newStep_mem_scriptBlocks_iff.mp hmem with ⟨step, hstep, _, _, hid⟩
      exact ⟨step, hstep, hid⟩
  rw [← not_exists, ← hcreated]
  simp [Reaction.outline, hresponse, hnext]

theorem outline_flags {tutorial : Tutorial} {step : Step} {reaction : Reaction}
    (hstep : step ∈ tutorial.steps) (hreaction : reaction ∈ step.reactions) :
    exists outlined, outlined ∈ tutorial.outline.steps ∧
      reaction.outline tutorial ∈ outlined.reactions :=
  ⟨tutorial.stepOutline step, List.mem_map_of_mem hstep, List.mem_map_of_mem hreaction⟩

/-- If no next step is missing, the script creates and adds every step that it passes on. -/
theorem nextSteps_created {tutorial : Tutorial}
    (h : forall step, step ∈ tutorial.outline.steps ->
      forall reaction, reaction ∈ step.reactions -> reaction.nextStepMissing = false) :
    forall id, id ∈ tutorial.nextSteps ->
      exists step, step ∈ tutorial.steps ∧ step.id = id ∧
        exists front middle back, tutorial.scriptBlocks =
          front ++ Block.newStep step.objectName id ::
            (middle ++ Block.addStep step.objectName :: back) := by
  intro id hid
  rcases mem_nextSteps_iff.mp hid with ⟨origin, horigin, _, reaction, hreaction, hdestination⟩
  rcases outline_flags horigin hreaction with ⟨outlined, houtlined, hmem⟩
  have hcreated : ¬ forall object, Block.newStep object id ∉ tutorial.scriptBlocks := by
    rw [← nextStepMissing_iff hdestination, h outlined houtlined _ hmem]
    exact Bool.false_ne_true
  rcases not_forall_not.mp hcreated with ⟨object, hobject⟩
  rcases newStep_mem_scriptBlocks_iff.mp hobject with ⟨step, hstep, hne, _, rfl⟩
  exact ⟨step, hstep, rfl, scriptBlocks_split hstep hne⟩

/-- Two steps that lead to each other, and one that nothing is written for. -/
def roundTour : Tutorial where
  name := "Round tour"
  steps :=
    [Step.halfFinished,
      { id := "end"
        reactions := [{ trigger := .optionSelected, option := "Again", nextStep := "start" }] },
      { reactions := [{ trigger := .optionSelected, option := "Leave", nextStep := "end" }] }]

theorem nextSteps_created_round_tour :
    (forall step, step ∈ roundTour.outline.steps ->
      forall reaction, reaction ∈ step.reactions -> reaction.nextStepMissing = false) ∧
    roundTour.nextSteps = ["end", "start"] ∧
    forall id, id ∈ roundTour.nextSteps ->
      exists step, step ∈ roundTour.steps ∧ step.id = id ∧
        exists front middle back, roundTour.scriptBlocks =
          front ++ Block.newStep step.objectName id ::
            (middle ++ Block.addStep step.objectName :: back) := by
  have hflags : forall step, step ∈ roundTour.outline.steps ->
      forall reaction, reaction ∈ step.reactions -> reaction.nextStepMissing = false := by
    decide
  have hnextSteps : roundTour.nextSteps = ["end", "start"] := by decide
  exact ⟨hflags, hnextSteps, nextSteps_created hflags⟩

end Tutorial
end TutorialKit
