import TutorialKit.Proofs.Editing.Attachment
import TutorialKit.Proofs.Outcomes

/-!
# What an action does

Everything an action can do, once: it exchanges a text or a value, or it attaches or detaches one
step or reaction.  The relation is read in both directions, so that most laws of actions are seen
from its cases.  It holds of all runs in which keys occur once and actions hold what they name.
-/

namespace TutorialKit
namespace Action

def entities : Action -> List Entity
  | setTutorial .. => []
  | setStep .. => []
  | setReaction .. => []
  | addStep _ _ held => held.toList.flatMap LiveStep.entities
  | removeStep _ _ held => held.toList.flatMap LiveStep.entities
  | addReaction _ _ _ held => held.toList.map fun reaction => .reaction reaction.key
  | removeReaction _ _ _ held => held.toList.map fun reaction => .reaction reaction.key

/-- What the action holds, if anything, bears the key that the action names. -/
def Keyed : Action -> Prop
  | setTutorial .. => True
  | setStep .. => True
  | setReaction .. => True
  | addStep key _ held => forall step, held = some step -> step.key = key
  | removeStep key _ held => forall step, held = some step -> step.key = key
  | addReaction _ key _ held => forall reaction, held = some reaction -> reaction.key = key
  | removeReaction _ key _ held => forall reaction, held = some reaction -> reaction.key = key

/-- Running the first action on the first tutorial leads to the second action and tutorial. -/
inductive Moves : Direction -> Action -> LiveTutorial -> Action -> LiveTutorial -> Prop where
  | setTutorial (direction : Direction) (field : TutorialField) (text : String)
      (tutorial : LiveTutorial) :
      Moves direction (setTutorial field text) tutorial
        (setTutorial field (tutorial.get field)) (tutorial.set field text)
  | setStep (direction : Direction) {key : StepKey} (field : StepField) (text : String)
      {tutorial : LiveTutorial} {step : LiveStep} :
      tutorial.step? key = some step ->
      Moves direction (setStep key field text) tutorial
        (setStep key field (step.get field))
        (tutorial.updateStep key fun step => step.set field text)
  | setReaction (direction : Direction) {key : ReactionKey} (value : ReactionValue)
      {tutorial : LiveTutorial} {reaction : LiveReaction} :
      tutorial.reaction? key = some reaction ->
      Moves direction (setReaction key value) tutorial
        (setReaction key (reaction.exchange value).2)
        (tutorial.updateReaction key fun reaction => (reaction.exchange value).1)
  | addStep {index : Option Nat} {step : LiveStep} {tutorial more : LiveTutorial} :
      tutorial.StepPlaced (index.getD tutorial.steps.length) step more ->
      Moves .redo (addStep step.key index (some step)) tutorial
        (addStep step.key index none) more
  | unaddStep (index : Option Nat) {place : Nat} {step : LiveStep}
      {tutorial more : LiveTutorial} :
      tutorial.StepPlaced place step more ->
      Moves .undo (addStep step.key index none) more
        (addStep step.key index (some step)) tutorial
  | removeStep (index : Nat) {place : Nat} {step : LiveStep} {tutorial more : LiveTutorial} :
      tutorial.StepPlaced place step more ->
      Moves .redo (removeStep step.key index none) more
        (removeStep step.key place (some step)) tutorial
  | unremoveStep {place : Nat} {step : LiveStep} {tutorial more : LiveTutorial} :
      tutorial.StepPlaced place step more ->
      Moves .undo (removeStep step.key place (some step)) tutorial
        (removeStep step.key place none) more
  | addReaction {key : StepKey} {index : Option Nat} {step : LiveStep}
      {reaction : LiveReaction} {tutorial more : LiveTutorial} :
      tutorial.step? key = some step ->
      tutorial.ReactionPlaced key (index.getD step.reactions.length) reaction more ->
      Moves .redo (addReaction key reaction.key index (some reaction)) tutorial
        (addReaction key reaction.key index none) more
  | unaddReaction {key : StepKey} (index : Option Nat) {place : Nat}
      {reaction : LiveReaction} {tutorial more : LiveTutorial} :
      tutorial.ReactionPlaced key place reaction more ->
      Moves .undo (addReaction key reaction.key index none) more
        (addReaction key reaction.key index (some reaction)) tutorial
  | removeReaction {key : StepKey} (index : Nat) {place : Nat} {reaction : LiveReaction}
      {tutorial more : LiveTutorial} :
      tutorial.ReactionPlaced key place reaction more ->
      Moves .redo (removeReaction key reaction.key index none) more
        (removeReaction key reaction.key place (some reaction)) tutorial
  | unremoveReaction {key : StepKey} {place : Nat} {reaction : LiveReaction}
      {tutorial more : LiveTutorial} :
      tutorial.ReactionPlaced key place reaction more ->
      Moves .undo (removeReaction key reaction.key place (some reaction)) tutorial
        (removeReaction key reaction.key place none) more

/-!
# Moves are runs

Each case of the relation is what running the action comes to.
-/

theorem run_of_moves {direction : Direction} {a a' : Action} {tutorial tutorial' : LiveTutorial}
    (h : Moves direction a tutorial a' tutorial') :
    exists changes, a.run direction tutorial = .ok ⟨tutorial', a', changes⟩ := by
  cases h with
  | setTutorial => exact ⟨_, rfl⟩
  | setStep _ field text hstep =>
      simp [run, runSetStep, findStep_of_step? hstep, bind, Except.bind, pure, Except.pure]
  | setReaction _ value hreaction =>
      simp [run, runSetReaction, hreaction]
  | addStep hplaced =>
      simp [run, attachStep_of_placed _ hplaced, bind, Except.bind, pure, Except.pure]
  | unaddStep _ hplaced =>
      simp [run, detachStep_of_placed hplaced, bind, Except.bind, pure, Except.pure]
  | removeStep _ hplaced =>
      simp [run, detachStep_of_placed hplaced, bind, Except.bind, pure, Except.pure]
  | unremoveStep hplaced =>
      simp [run, attachStep_of_placed _ hplaced, bind, Except.bind, pure, Except.pure]
  | addReaction hstep hplaced =>
      simp [run, attachReaction_of_placed _ _ hplaced hstep rfl, bind, Except.bind, pure,
        Except.pure]
  | unaddReaction _ hplaced =>
      simp [run, detachReaction_of_placed hplaced, bind, Except.bind, pure, Except.pure]
  | removeReaction _ hplaced =>
      simp [run, detachReaction_of_placed hplaced, bind, Except.bind, pure, Except.pure]
  | unremoveReaction hplaced =>
      rcases hplaced.step? with ⟨step, _, hstep, _⟩
      simp [run, attachReaction_of_placed _ (some _) hplaced hstep rfl, bind,
        Except.bind, pure, Except.pure]

/-!
# Runs that succeed

A run that succeeds exchanges a text or a value, or goes through one of the four ways to attach or
detach something.  Nothing else is needed of `run` to know what it has done.
-/

inductive Succeeds : Direction -> Action -> LiveTutorial -> Done -> Prop where
  | setTutorial {direction : Direction} {field : TutorialField} {text : String}
      {tutorial : LiveTutorial} :
      Succeeds direction (setTutorial field text) tutorial (runSetTutorial field text tutorial)
  | setStep {direction : Direction} {key : StepKey} {field : StepField} {text : String}
      {tutorial : LiveTutorial} {step : LiveStep} :
      tutorial.step? key = some step ->
      Succeeds direction (setStep key field text) tutorial
        ⟨tutorial.updateStep key fun step => step.set field text,
          setStep key field (step.get field), [.stepData key]⟩
  | setReaction {direction : Direction} {key : ReactionKey} {value : ReactionValue}
      {tutorial : LiveTutorial} {reaction : LiveReaction} :
      tutorial.reaction? key = some reaction ->
      Succeeds direction (setReaction key value) tutorial
        ⟨tutorial.updateReaction key fun reaction => (reaction.exchange value).1,
          setReaction key (reaction.exchange value).2, [.reactionData key]⟩
  | addStep {key : StepKey} {index : Option Nat} {held : Option LiveStep}
      {tutorial more : LiveTutorial} {changes : List Change} :
      attachStep "Add step" (index.getD tutorial.steps.length) held tutorial =
        .ok (more, changes) ->
      Succeeds .redo (addStep key index held) tutorial ⟨more, addStep key index none, changes⟩
  | unaddStep {key : StepKey} {index : Option Nat} {held : Option LiveStep} {place : Nat}
      {step : LiveStep} {tutorial less : LiveTutorial} {changes : List Change} :
      detachStep key tutorial = .ok (less, step, place, changes) ->
      Succeeds .undo (addStep key index held) tutorial
        ⟨less, addStep key index (some step), changes⟩
  | removeStep {key : StepKey} {index : Nat} {held : Option LiveStep} {place : Nat}
      {step : LiveStep} {tutorial less : LiveTutorial} {changes : List Change} :
      detachStep key tutorial = .ok (less, step, place, changes) ->
      Succeeds .redo (removeStep key index held) tutorial
        ⟨less, removeStep key place (some step), changes⟩
  | unremoveStep {key : StepKey} {index : Nat} {held : Option LiveStep}
      {tutorial more : LiveTutorial} {changes : List Change} :
      attachStep "Remove step" index held tutorial = .ok (more, changes) ->
      Succeeds .undo (removeStep key index held) tutorial
        ⟨more, removeStep key index none, changes⟩
  | addReaction {stepKey : StepKey} {key : ReactionKey} {index : Option Nat}
      {held : Option LiveReaction} {tutorial more : LiveTutorial} {changes : List Change} :
      attachReaction "Add reaction" stepKey index held tutorial = .ok (more, changes) ->
      Succeeds .redo (addReaction stepKey key index held) tutorial
        ⟨more, addReaction stepKey key index none, changes⟩
  | unaddReaction {stepKey : StepKey} {key : ReactionKey} {index : Option Nat}
      {held : Option LiveReaction} {place : Nat} {reaction : LiveReaction}
      {tutorial less : LiveTutorial} {changes : List Change} :
      detachReaction stepKey key tutorial = .ok (less, reaction, place, changes) ->
      Succeeds .undo (addReaction stepKey key index held) tutorial
        ⟨less, addReaction stepKey key index (some reaction), changes⟩
  | removeReaction {stepKey : StepKey} {key : ReactionKey} {index : Nat}
      {held : Option LiveReaction} {place : Nat} {reaction : LiveReaction}
      {tutorial less : LiveTutorial} {changes : List Change} :
      detachReaction stepKey key tutorial = .ok (less, reaction, place, changes) ->
      Succeeds .redo (removeReaction stepKey key index held) tutorial
        ⟨less, removeReaction stepKey key place (some reaction), changes⟩
  | unremoveReaction {stepKey : StepKey} {key : ReactionKey} {index : Nat}
      {held : Option LiveReaction} {tutorial more : LiveTutorial} {changes : List Change} :
      attachReaction "Remove reaction" stepKey (some index) held tutorial = .ok (more, changes) ->
      Succeeds .undo (removeReaction stepKey key index held) tutorial
        ⟨more, removeReaction stepKey key index none, changes⟩

section

variable {direction : Direction} {tutorial : LiveTutorial} {done : Done}

theorem succeeds_of_runSetStep {key : StepKey} {field : StepField} {text : String}
    (h : runSetStep key field text tutorial = .ok done) :
    Succeeds direction (setStep key field text) tutorial done := by
  rcases bind_eq_ok_iff.mp h with ⟨step, hstep, hdone⟩
  cases hdone
  exact .setStep (findStep_eq_ok hstep)

theorem succeeds_of_runSetReaction {key : ReactionKey} {value : ReactionValue}
    (h : runSetReaction key value tutorial = .ok done) :
    Succeeds direction (setReaction key value) tutorial done := by
  unfold runSetReaction at h
  split at h
  · cases h
  · rename_i reaction hreaction
    cases h
    exact .setReaction hreaction

theorem succeeds_of_run {a : Action} (h : a.run direction tutorial = .ok done) :
    Succeeds direction a tutorial done := by
  cases a with
  | setTutorial field text =>
      cases h
      exact .setTutorial
  | setStep key field text => exact succeeds_of_runSetStep h
  | setReaction key value => exact succeeds_of_runSetReaction h
  | addStep key index held =>
      cases direction with
      | redo =>
          rcases bind_eq_ok_iff.mp h with ⟨⟨more, changes⟩, hattach, hdone⟩
          cases hdone
          exact .addStep hattach
      | undo =>
          rcases bind_eq_ok_iff.mp h with ⟨⟨less, step, place, changes⟩, hdetach, hdone⟩
          cases hdone
          exact .unaddStep hdetach
  | removeStep key index held =>
      cases direction with
      | redo =>
          rcases bind_eq_ok_iff.mp h with ⟨⟨less, step, place, changes⟩, hdetach, hdone⟩
          cases hdone
          exact .removeStep hdetach
      | undo =>
          rcases bind_eq_ok_iff.mp h with ⟨⟨more, changes⟩, hattach, hdone⟩
          cases hdone
          exact .unremoveStep hattach
  | addReaction stepKey key index held =>
      cases direction with
      | redo =>
          rcases bind_eq_ok_iff.mp h with ⟨⟨more, changes⟩, hattach, hdone⟩
          cases hdone
          exact .addReaction hattach
      | undo =>
          rcases bind_eq_ok_iff.mp h with ⟨⟨less, reaction, place, changes⟩, hdetach, hdone⟩
          cases hdone
          exact .unaddReaction hdetach
  | removeReaction stepKey key index held =>
      cases direction with
      | redo =>
          rcases bind_eq_ok_iff.mp h with ⟨⟨less, reaction, place, changes⟩, hdetach, hdone⟩
          cases hdone
          exact .removeReaction hdetach
      | undo =>
          rcases bind_eq_ok_iff.mp h with ⟨⟨more, changes⟩, hattach, hdone⟩
          cases hdone
          exact .unremoveReaction hattach

end

/-!
# Runs are moves

An action cannot hold what it is about to take out of the tutorial, so nothing that it holds is
ever lost.
-/

theorem attachStep_held {label : String} {key : StepKey} {index : Nat} {held : Option LiveStep}
    {tutorial more : LiveTutorial} {changes : List Change}
    (hkeyed : forall other, held = some other -> other.key = key)
    (h : attachStep label index held tutorial = .ok (more, changes)) :
    exists step, held = some step ∧ step.key = key ∧ tutorial.StepPlaced index step more := by
  rcases attachStep_eq_ok h with ⟨step, hheld, hplaced⟩
  exact ⟨step, hheld, hkeyed step hheld, hplaced⟩

theorem detachStep_held {key : StepKey} {place : Nat} {step : LiveStep}
    {tutorial more : LiveTutorial} {held : Option LiveStep} {changes : List Change}
    (hkeyed : forall other, held = some other -> other.key = key)
    (hunique : (more.entities ++ held.toList.flatMap LiveStep.entities).Nodup)
    (h : detachStep key more = .ok (tutorial, step, place, changes)) :
    step.key = key ∧ held = none ∧ tutorial.StepPlaced place step more := by
  rcases detachStep_eq_ok (List.nodup_append.mp hunique).1 h with ⟨hkey, hplaced⟩
  refine ⟨hkey, ?_, hplaced⟩
  cases held with
  | none => rfl
  | some other =>
      have hmore : Entity.step key ∈ more.entities := by
        rw [hplaced.entities_perm.mem_iff, ← hkey]
        simp [LiveStep.entities]
      have hother : Entity.step key ∈ other.entities := by
        rw [← hkeyed other rfl]
        simp [LiveStep.entities]
      exact absurd rfl ((List.nodup_append.mp hunique).2.2 _ hmore _ (by simpa using hother))

theorem attachReaction_held {label : String} {stepKey : StepKey} {key : ReactionKey}
    {index : Option Nat} {held : Option LiveReaction} {tutorial more : LiveTutorial}
    {changes : List Change} (hkeyed : forall other, held = some other -> other.key = key)
    (h : attachReaction label stepKey index held tutorial = .ok (more, changes)) :
    exists step reaction, tutorial.step? stepKey = some step ∧ held = some reaction ∧
      reaction.key = key ∧
      tutorial.ReactionPlaced stepKey (index.getD step.reactions.length) reaction more := by
  rcases attachReaction_eq_ok h with ⟨step, reaction, hstep, hheld, hplaced⟩
  exact ⟨step, reaction, hstep, hheld, hkeyed reaction hheld, hplaced⟩

theorem detachReaction_held {stepKey : StepKey} {key : ReactionKey} {place : Nat}
    {reaction : LiveReaction} {tutorial more : LiveTutorial} {held : Option LiveReaction}
    {changes : List Change} (hkeyed : forall other, held = some other -> other.key = key)
    (hunique : (more.entities ++
      held.toList.map fun reaction => Entity.reaction reaction.key).Nodup)
    (h : detachReaction stepKey key more = .ok (tutorial, reaction, place, changes)) :
    reaction.key = key ∧ held = none ∧ tutorial.ReactionPlaced stepKey place reaction more := by
  rcases detachReaction_eq_ok (List.nodup_append.mp hunique).1 h with ⟨hkey, hplaced⟩
  refine ⟨hkey, ?_, hplaced⟩
  cases held with
  | none => rfl
  | some other =>
      have hmore : Entity.reaction key ∈ more.entities := by
        rw [hplaced.entities_perm.mem_iff, ← hkey]
        simp
      exact absurd rfl ((List.nodup_append.mp hunique).2.2 _ hmore _
        (by simp [hkeyed other rfl]))

theorem moves_of_run {direction : Direction} {a : Action} {tutorial : LiveTutorial} {done : Done}
    (hkeyed : a.Keyed) (hunique : (tutorial.entities ++ a.entities).Nodup)
    (h : a.run direction tutorial = .ok done) :
    Moves direction a tutorial done.action done.tutorial := by
  cases succeeds_of_run h with
  | setTutorial => exact .setTutorial ..
  | setStep hstep => exact .setStep _ _ _ hstep
  | setReaction hreaction => exact .setReaction _ _ hreaction
  | addStep hattach =>
      rcases attachStep_held hkeyed hattach with ⟨step, rfl, rfl, hplaced⟩
      exact .addStep hplaced
  | unaddStep hdetach =>
      rcases detachStep_held hkeyed hunique hdetach with ⟨rfl, rfl, hplaced⟩
      exact .unaddStep _ hplaced
  | removeStep hdetach =>
      rcases detachStep_held hkeyed hunique hdetach with ⟨rfl, rfl, hplaced⟩
      exact .removeStep _ hplaced
  | unremoveStep hattach =>
      rcases attachStep_held hkeyed hattach with ⟨step, rfl, rfl, hplaced⟩
      exact .unremoveStep hplaced
  | addReaction hattach =>
      rcases attachReaction_held hkeyed hattach with ⟨step, reaction, hstep, rfl, rfl, hplaced⟩
      exact .addReaction hstep hplaced
  | unaddReaction hdetach =>
      rcases detachReaction_held hkeyed hunique hdetach with ⟨rfl, rfl, hplaced⟩
      exact .unaddReaction _ hplaced
  | removeReaction hdetach =>
      rcases detachReaction_held hkeyed hunique hdetach with ⟨rfl, rfl, hplaced⟩
      exact .removeReaction _ hplaced
  | unremoveReaction hattach =>
      rcases attachReaction_held hkeyed hattach with ⟨step, reaction, hstep, rfl, rfl, hplaced⟩
      exact .unremoveReaction hplaced

/-!
# Laws of moves

What leaves the tutorial is held, and what was held and is not any longer stands in the tutorial.
-/

theorem Moves.entities_perm {direction : Direction} {a a' : Action}
    {tutorial tutorial' : LiveTutorial} (h : Moves direction a tutorial a' tutorial') :
    (tutorial'.entities ++ a'.entities).Perm (tutorial.entities ++ a.entities) := by
  cases h with
  | setTutorial _ field text => simp [entities]
  | setStep _ field text hstep =>
      have hset := LiveTutorial.flatMap_updateStep LiveStep.entities [] hstep
        (f := fun step => step.set field text) (by simp)
      simpa [entities, LiveTutorial.entities] using hset
  | setReaction _ value hreaction =>
      rw [LiveTutorial.entities_updateReaction _ _ (fun reaction => by simp)]
      simp [entities]
  | addStep hplaced =>
      simpa [entities] using hplaced.entities_perm.trans List.perm_append_comm
  | unaddStep _ hplaced =>
      simpa [entities] using List.perm_append_comm.trans hplaced.entities_perm.symm
  | removeStep _ hplaced =>
      simpa [entities] using List.perm_append_comm.trans hplaced.entities_perm.symm
  | unremoveStep hplaced =>
      simpa [entities] using hplaced.entities_perm.trans List.perm_append_comm
  | addReaction _ hplaced =>
      simpa [entities] using hplaced.entities_perm.trans (List.perm_append_singleton _ _).symm
  | unaddReaction _ hplaced =>
      simpa [entities] using (List.perm_append_singleton _ _).trans hplaced.entities_perm.symm
  | removeReaction _ hplaced =>
      simpa [entities] using (List.perm_append_singleton _ _).trans hplaced.entities_perm.symm
  | unremoveReaction hplaced =>
      simpa [entities] using hplaced.entities_perm.trans (List.perm_append_singleton _ _).symm

theorem Moves.keyed {direction : Direction} {a a' : Action}
    {tutorial tutorial' : LiveTutorial} (h : Moves direction a tutorial a' tutorial') :
    a'.Keyed := by
  cases h <;> simp [Keyed]

/-!
# Moving back

An action can be taken back from where it has led to, and is carried out again to the same end if
what it had added stood in place.
-/

def IsExchange : Action -> Prop
  | setTutorial .. => True
  | setStep .. => True
  | setReaction .. => True
  | _ => False

theorem Moves.back_of_isExchange {direction : Direction} {a a' : Action}
    {tutorial tutorial' : LiveTutorial} (h : Moves direction a tutorial a' tutorial')
    (ha : a.IsExchange) (back : Direction) : Moves back a' tutorial' a tutorial := by
  cases h with
  | setTutorial _ field text =>
      have hback := Moves.setTutorial back field (tutorial.get field) (tutorial.set field text)
      rwa [LiveTutorial.get_set, LiveTutorial.set_get_set] at hback
  | setStep _ field text hstep =>
      rename_i key step
      have hkey : (step.set field text).key = key := by
        rw [LiveStep.key_set]
        exact LiveTutorial.key_of_step? hstep
      have hfound : (tutorial.updateStep key fun step => step.set field text).step? key =
          some (step.set field text) :=
        find?_replaceFirst hstep (by simp [LiveTutorial.key_of_step? hstep])
      have hback := Moves.setStep back field (step.get field) hfound
      rwa [LiveStep.get_set, LiveTutorial.updateStep_updateStep hstep hkey
        (LiveStep.set_get_set step field text)] at hback
  | setReaction _ value hreaction =>
      rename_i key reaction
      have hfound := LiveTutorial.reaction?_updateReaction hreaction
        (f := fun reaction => (reaction.exchange value).1) (by simp)
      have hexchange := reaction.exchange_exchange value
      have hback := Moves.setReaction back (reaction.exchange value).2 hfound
      rwa [hexchange, LiveTutorial.updateReaction_updateReaction hreaction (by simp)
        (by rw [hexchange])] at hback
  | addStep => cases ha
  | unaddStep => cases ha
  | removeStep => cases ha
  | unremoveStep => cases ha
  | addReaction => cases ha
  | unaddReaction => cases ha
  | removeReaction => cases ha
  | unremoveReaction => cases ha

theorem Moves.undo_of_redo {a b : Action} {tutorial tutorial' : LiveTutorial}
    (h : Moves .redo a tutorial b tutorial') :
    exists a', Moves .undo b tutorial' a' tutorial ∧ Moves .redo a' tutorial b tutorial' := by
  cases h with
  | setTutorial _ field text =>
      exact ⟨_, (Moves.setTutorial .redo field text tutorial).back_of_isExchange trivial .undo,
        .setTutorial .redo field text tutorial⟩
  | setStep _ field text hstep =>
      exact ⟨_, (Moves.setStep .redo field text hstep).back_of_isExchange trivial .undo,
        .setStep .redo field text hstep⟩
  | setReaction _ value hreaction =>
      exact ⟨_, (Moves.setReaction .redo value hreaction).back_of_isExchange trivial .undo,
        .setReaction .redo value hreaction⟩
  | addStep hplaced => exact ⟨_, .unaddStep _ hplaced, .addStep hplaced⟩
  | removeStep index hplaced => exact ⟨_, .unremoveStep hplaced, .removeStep _ hplaced⟩
  | addReaction hstep hplaced => exact ⟨_, .unaddReaction _ hplaced, .addReaction hstep hplaced⟩
  | removeReaction index hplaced =>
      exact ⟨_, .unremoveReaction hplaced, .removeReaction _ hplaced⟩

/--
Whether what the action has added, if it is there, stands where the action would add it: at the
index that the action was given, or at the end.
-/
def InPlace (tutorial : LiveTutorial) : Action -> Prop
  | addStep key index _ =>
      forall place, tutorial.stepIndex? key = some place ->
        place = index.getD (tutorial.steps.length - 1)
  | addReaction stepKey key index _ =>
      forall step place, tutorial.step? stepKey = some step ->
        step.reactionIndex? key = some place -> place = index.getD (step.reactions.length - 1)
  | _ => True

theorem Moves.placed_of_addStep {key : StepKey} {index : Option Nat} {step : LiveStep}
    {a : Action} {tutorial more : LiveTutorial}
    (h : Moves .redo (.addStep key index (some step)) tutorial a more) :
    tutorial.StepPlaced (index.getD tutorial.steps.length) step more := by
  cases h with
  | addStep hplaced => exact hplaced

theorem Moves.placed_of_addReaction {stepKey : StepKey} {key : ReactionKey} {index : Option Nat}
    {reaction : LiveReaction} {a : Action} {tutorial more : LiveTutorial}
    (h : Moves .redo (.addReaction stepKey key index (some reaction)) tutorial a more) :
    exists step, tutorial.step? stepKey = some step ∧
      tutorial.ReactionPlaced stepKey (index.getD step.reactions.length) reaction more := by
  cases h with
  | addReaction hstep hplaced => exact ⟨_, hstep, hplaced⟩

theorem redo_addStep_iff {index : Option Nat} {place : Nat} {step : LiveStep}
    {tutorial more : LiveTutorial} (hplaced : tutorial.StepPlaced place step more) :
    Moves .redo (addStep step.key index (some step)) tutorial (addStep step.key index none) more ↔
      (addStep step.key index none).InPlace more := by
  have hlength : more.steps.length - 1 = tutorial.steps.length := by
    rcases hplaced with ⟨steps, hsteps, rfl⟩
    simp [hsteps.length]
  simp only [InPlace, hplaced.stepIndex?, hlength]
  constructor
  · intro hredo other hother
    cases hother
    rcases hplaced.unique hredo.placed_of_addStep rfl with ⟨-, hindex, -⟩
    exact hindex
  · intro hplace
    rw [hplace place rfl] at hplaced
    exact .addStep hplaced

theorem redo_addReaction_iff {stepKey : StepKey} {index : Option Nat} {place : Nat}
    {reaction : LiveReaction} {tutorial more : LiveTutorial}
    (hplaced : tutorial.ReactionPlaced stepKey place reaction more) :
    Moves .redo (addReaction stepKey reaction.key index (some reaction)) tutorial
        (addReaction stepKey reaction.key index none) more ↔
      (addReaction stepKey reaction.key index none).InPlace more := by
  rcases hplaced.step? with ⟨step, reactions, hstep, hreactions, hmore, -⟩
  constructor
  · intro hredo found other hfound hother
    rw [hmore] at hfound
    cases hfound
    have hindex : reactions.findIdx? (fun other => other.key == reaction.key) = some place :=
      hreactions.findIdx?
    rw [LiveStep.reactionIndex?, hindex] at hother
    cases hother
    rcases hredo.placed_of_addReaction with ⟨step', hstep', hplaced'⟩
    rw [hstep] at hstep'
    cases hstep'
    rcases hplaced.unique hplaced' rfl with ⟨-, hplace, -⟩
    simpa [hreactions.length] using hplace
  · intro hplace
    have hindex := hplace _ place hmore hreactions.findIdx?
    simp only [hreactions.length, Nat.add_sub_cancel] at hindex
    rw [hindex] at hplaced
    exact .addReaction hstep hplaced

theorem Moves.redo_of_undo_iff {a b : Action} {tutorial tutorial' : LiveTutorial}
    (h : Moves .undo a tutorial b tutorial') :
    Moves .redo b tutorial' a tutorial ↔ a.InPlace tutorial := by
  cases h with
  | setTutorial _ field text =>
      simp only [InPlace, iff_true]
      exact (Moves.setTutorial .undo field text tutorial).back_of_isExchange trivial .redo
  | setStep _ field text hstep =>
      simp only [InPlace, iff_true]
      exact (Moves.setStep .undo field text hstep).back_of_isExchange trivial .redo
  | setReaction _ value hreaction =>
      simp only [InPlace, iff_true]
      exact (Moves.setReaction .undo value hreaction).back_of_isExchange trivial .redo
  | unaddStep index hplaced => exact redo_addStep_iff hplaced
  | unremoveStep hplaced =>
      simp only [InPlace, iff_true]
      exact .removeStep _ hplaced
  | unaddReaction index hplaced => exact redo_addReaction_iff hplaced
  | unremoveReaction hplaced =>
      simp only [InPlace, iff_true]
      exact .removeReaction _ hplaced

/-!
# Moves of several actions

Any number of moves, by any of the actions and in either direction.  The order in which the actions
are listed plays no role.
-/

inductive Shifts : LiveTutorial -> List Action -> LiveTutorial -> List Action -> Prop where
  | perm (tutorial : LiveTutorial) {actions actions' : List Action} :
      actions.Perm actions' -> Shifts tutorial actions tutorial actions'
  | move {direction : Direction} {a a' : Action} {tutorial tutorial' : LiveTutorial}
      (others : List Action) :
      Moves direction a tutorial a' tutorial' ->
      Shifts tutorial (a :: others) tutorial' (a' :: others)
  | trans {tutorial between tutorial' : LiveTutorial} {first second third : List Action} :
      Shifts tutorial first between second -> Shifts between second tutorial' third ->
      Shifts tutorial first tutorial' third

namespace Shifts

variable {tutorial tutorial' : LiveTutorial} {actions actions' : List Action}

theorem append_right (h : Shifts tutorial actions tutorial' actions') (others : List Action) :
    Shifts tutorial (actions ++ others) tutorial' (actions' ++ others) := by
  induction h with
  | perm tutorial hperm => exact .perm tutorial (hperm.append_right others)
  | move rest hmoves => exact .move (rest ++ others) hmoves
  | trans hfirst hsecond ihfirst ihsecond => exact ihfirst.trans ihsecond

theorem append_left (h : Shifts tutorial actions tutorial' actions') (others : List Action) :
    Shifts tutorial (others ++ actions) tutorial' (others ++ actions') :=
  (Shifts.perm tutorial List.perm_append_comm).trans
    ((h.append_right others).trans (.perm tutorial' List.perm_append_comm))

theorem keyed (h : Shifts tutorial actions tutorial' actions')
    (hkeyed : forall a, a ∈ actions -> a.Keyed) : forall a, a ∈ actions' -> a.Keyed := by
  induction h with
  | perm tutorial hperm => exact fun a ha => hkeyed a (hperm.mem_iff.mpr ha)
  | move others hmoves =>
      rw [List.forall_mem_cons] at hkeyed ⊢
      exact ⟨hmoves.keyed, hkeyed.2⟩
  | trans hfirst hsecond ihfirst ihsecond => exact ihsecond (ihfirst hkeyed)

theorem keeps {β : Type} (f : LiveTutorial -> List β) (g : Action -> List β)
    (hmoves : forall {direction a a' tutorial tutorial'},
      Moves direction a tutorial a' tutorial' ->
      (f tutorial' ++ g a').Perm (f tutorial ++ g a))
    (h : Shifts tutorial actions tutorial' actions') :
    (f tutorial' ++ actions'.flatMap g).Perm (f tutorial ++ actions.flatMap g) := by
  induction h with
  | perm tutorial hperm => exact (hperm.symm.flatMap_right g).append_left _
  | move others hmove =>
      rw [List.flatMap_cons, List.flatMap_cons, ← List.append_assoc, ← List.append_assoc]
      exact (hmoves hmove).append_right _
  | trans hfirst hsecond ihfirst ihsecond => exact ihsecond.trans ihfirst

theorem entities_perm (h : Shifts tutorial actions tutorial' actions') :
    (tutorial'.entities ++ actions'.flatMap entities).Perm
      (tutorial.entities ++ actions.flatMap entities) :=
  h.keeps LiveTutorial.entities entities Moves.entities_perm

end Shifts
end Action
end TutorialKit
