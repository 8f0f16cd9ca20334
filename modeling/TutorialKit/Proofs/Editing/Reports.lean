import TutorialKit.Editing.History
import TutorialKit.Proofs.Editing.Reversal
import TutorialKit.Proofs.Editing.Stock

/-!
# What runs report

Whatever an action, a command or a history does to a tutorial is made of edits, and exactly these
are reported, in their order.  This holds of runs that fail and of what is run the other way then.
Nothing has to be known of the keys, nor of what the commands hold.
-/

namespace TutorialKit

/-!
# Items beside a tutorial

What lies beside a tutorial may be listed in any order, and may be given up.
-/

namespace Edits

variable {inPlace : Bool} {tutorial tutorial' : LiveTutorial} {changes : List Change}
  {others others' : List Item}

theorem beside {front front' : List Item} (h : others.Perm front)
    (hedits : Edits inPlace (tutorial.stock front) changes (tutorial'.stock front'))
    (h' : front'.Perm others') :
    Edits inPlace (tutorial.stock others) changes (tutorial'.stock others') :=
  .between (h.append_left _) hedits (h'.append_left _)

theorem losing {front : List Item} (lost : List Item)
    (h : Edits inPlace (tutorial.stock others) changes (tutorial'.stock front))
    (hlost : front.Perm (others' ++ lost)) :
    Edits inPlace (tutorial.stock others) changes (tutorial'.stock others') := by
  have hperm : (tutorial'.steps.map Item.step ++ front).Perm
      (tutorial'.steps.map Item.step ++ others' ++ lost) := by
    rw [List.append_assoc]
    exact hlost.append_left _
  have hall := h.trans (.of_perm lost hperm)
  rwa [List.append_nil] at hall

end Edits

/-!
# Actions

An action that takes something out gives up what it held before.
-/

namespace Action

def items : Action -> List Item
  | setTutorial .. => []
  | setStep .. => []
  | setReaction .. => []
  | addStep _ _ held => held.toList.map .step
  | removeStep _ _ held => held.toList.map .step
  | addReaction _ _ _ held => held.toList.map .reaction
  | removeReaction _ _ _ held => held.toList.map .reaction

variable {inPlace : Bool} {tutorial tutorial' : LiveTutorial} {changes : List Change}

theorem edits_of_attachStep {label : String} {index : Nat} {held : Option LiveStep}
    (h : attachStep label index held tutorial = .ok (tutorial', changes)) (others : List Item) :
    Edits inPlace (tutorial.stock (held.toList.map .step ++ others)) changes
      (tutorial'.stock others) := by
  rcases bind_eq_ok_iff.mp h with ⟨step, htake, htail⟩
  rcases bind_eq_ok_iff.mp htail with ⟨attached, hinsert, hresult⟩
  cases hresult
  rw [(takeHeld_eq_ok htake).2]
  exact .step_inserted (mapError_eq_ok_iff.mp hinsert) others

theorem edits_of_detachStep {key : StepKey} {step : LiveStep} {place : Nat}
    (h : detachStep key tutorial = .ok (tutorial', step, place, changes)) (others : List Item) :
    Edits inPlace (tutorial.stock others) changes (tutorial'.stock (.step step :: others)) := by
  unfold detachStep at h
  split at h
  · cases h
  · rcases bind_eq_ok_iff.mp h with ⟨⟨removed, detached⟩, hremove, hresult⟩
    cases hresult
    exact .step_removed (mapError_eq_ok_iff.mp hremove) others

theorem edits_of_attachReaction {label : String} {key : StepKey} {index : Option Nat}
    {held : Option LiveReaction}
    (h : attachReaction label key index held tutorial = .ok (tutorial', changes))
    (others : List Item) :
    Edits inPlace (tutorial.stock (held.toList.map .reaction ++ others)) changes
      (tutorial'.stock others) := by
  rcases bind_eq_ok_iff.mp h with ⟨step, hfind, hthen⟩
  rcases bind_eq_ok_iff.mp hthen with ⟨reaction, htake, htail⟩
  rcases bind_eq_ok_iff.mp htail with ⟨attached, hinsert, hresult⟩
  cases hresult
  rw [(takeHeld_eq_ok htake).2]
  have hstep := findStep_eq_ok hfind
  have hadded : Amends inPlace step _ _ attached [] :=
    .reactionAdded (mapError_eq_ok_iff.mp hinsert)
  rw [LiveTutorial.key_of_step? hstep] at hadded
  exact hadded.inTutorial (f := fun _ => attached) hstep others

theorem edits_of_detachReaction {stepKey : StepKey} {key : ReactionKey} {reaction : LiveReaction}
    {place : Nat}
    (h : detachReaction stepKey key tutorial = .ok (tutorial', reaction, place, changes))
    (others : List Item) :
    Edits inPlace (tutorial.stock others) changes
      (tutorial'.stock (.reaction reaction :: others)) := by
  rcases bind_eq_ok_iff.mp h with ⟨step, hfind, htail⟩
  split at htail
  · cases htail
  · rcases bind_eq_ok_iff.mp htail with ⟨⟨removed, detached⟩, hremove, hresult⟩
    cases hresult
    have hstep := findStep_eq_ok hfind
    have hremoved : Amends inPlace step [] _ detached _ :=
      .reactionRemoved (mapError_eq_ok_iff.mp hremove)
    rw [LiveTutorial.key_of_step? hstep] at hremoved
    exact hremoved.inTutorial (f := fun _ => detached) hstep others

theorem edits_of_setStep {key : StepKey} {step : LiveStep} (hstep : tutorial.step? key = some step)
    (field : StepField) (text : String) (others : List Item) :
    Edits inPlace (tutorial.stock others) [.stepData key]
      ((tutorial.updateStep key fun step => step.set field text).stock others) := by
  have hdata : Amends inPlace step [] [.stepData step.key] (step.set field text) [] :=
    .data (step.key_set field text) (by cases field <;> rfl)
  rw [LiveTutorial.key_of_step? hstep] at hdata
  exact hdata.inTutorial (f := fun step => step.set field text) hstep others

theorem edits_of_setReaction {key : ReactionKey} {reaction : LiveReaction}
    (hreaction : tutorial.reaction? key = some reaction) (value : ReactionValue)
    (others : List Item) :
    Edits inPlace (tutorial.stock others) [.reactionData key]
      ((tutorial.updateReaction key fun reaction => (reaction.exchange value).1).stock
        others) := by
  have hdata : Revises inPlace reaction [.reactionData reaction.key]
      (reaction.exchange value).1 := .data (reaction.key_exchange value)
  rw [LiveTutorial.key_of_reaction? hreaction] at hdata
  exact hdata.inTutorial (f := fun reaction => (reaction.exchange value).1) hreaction others

theorem edits_of_run {direction : Direction} {a : Action} {done : Done}
    (h : a.run direction tutorial = .ok done) (others : List Item) :
    Edits inPlace (tutorial.stock (a.items ++ others)) done.changes
      (done.tutorial.stock (done.action.items ++ others)) := by
  cases succeeds_of_run h with
  | setTutorial => exact .tutorial_set _ _ others
  | setStep hstep => exact edits_of_setStep hstep _ _ others
  | setReaction hreaction => exact edits_of_setReaction hreaction _ others
  | addStep hattach => exact edits_of_attachStep hattach others
  | unaddStep hdetach =>
      exact (edits_of_detachStep hdetach _).losing _ (List.perm_append_comm.cons _)
  | removeStep hdetach =>
      exact (edits_of_detachStep hdetach _).losing _ (List.perm_append_comm.cons _)
  | unremoveStep hattach => exact edits_of_attachStep hattach others
  | addReaction hattach => exact edits_of_attachReaction hattach others
  | unaddReaction hdetach =>
      exact (edits_of_detachReaction hdetach _).losing _ (List.perm_append_comm.cons _)
  | removeReaction hdetach =>
      exact (edits_of_detachReaction hdetach _).losing _ (List.perm_append_comm.cons _)
  | unremoveReaction hattach => exact edits_of_attachReaction hattach others

end Action

/-!
# Commands

The members of a group do what they do by themselves, one after the other, also where they are run
the other way.
-/

namespace Command

variable {inPlace : Bool}

def items (command : Command) : List Item :=
  command.actions.flatMap Action.items

@[simp] theorem items_action (a : Action) : items (action a) = a.items := by
  simp [items, actions_action]

@[simp] theorem items_group (label : String) (members : List Command) :
    items (group label members) = members.flatMap items := by
  simp only [items, actions_group, List.flatMap_assoc]
  rfl

theorem edits_of_runAction (direction : Direction) (a : Action) (tutorial : LiveTutorial)
    (others : List Item) :
    Edits inPlace (tutorial.stock (a.items ++ others)) (runAction direction a tutorial).changes
      ((runAction direction a tutorial).tutorial.stock
        ((runAction direction a tutorial).command.items ++ others)) := by
  rw [runAction]
  cases hrun : a.run direction tutorial with
  | ok done =>
      simp only [items_action]
      exact Action.edits_of_run hrun others
  | error fault =>
      simp only [items_action]
      exact .refl _

theorem edits_of_runSequence {depth : Nat}
    (hrun : forall command, height command <= depth -> forall direction tutorial others,
      Edits inPlace (tutorial.stock (command.items ++ others))
        (run direction command tutorial).changes
        ((run direction command tutorial).tutorial.stock
          ((run direction command tutorial).command.items ++ others)))
    (direction : Direction) {members : List Command} (hdepth : heightAll members <= depth)
    (tutorial : LiveTutorial) (others : List Item) :
    Edits inPlace (tutorial.stock (members.flatMap items ++ others))
      (runSequence run direction members tutorial).changes
      ((runSequence run direction members tutorial).tutorial.stock
        ((runSequence run direction members tutorial).command.flatMap items ++ others)) := by
  -- While one member runs, what the others hold lies beside the tutorial.
  induction members generalizing tutorial others with
  | nil => exact .refl _
  | cons first rest ih =>
      rw [heightAll, Nat.max_le] at hdepth
      have hfirst := hrun first hdepth.1 direction tutorial (rest.flatMap items ++ others)
      have hheight := Nat.le_trans (gives_run direction first tutorial).height_le hdepth.1
      rw [runSequence]
      generalize run direction first tutorial = done at hfirst hheight ⊢
      rw [List.flatMap_cons, List.append_assoc]
      cases hfault : done.fault with
      | some fault =>
          simp only [List.flatMap_cons, List.append_assoc]
          exact hfirst
      | none =>
          have hrest := ih hdepth.2 done.tutorial (done.command.items ++ others)
          have hlater := hrest.beside (List.perm_append_comm_assoc ..)
            (List.perm_append_comm_assoc ..)
          simp only
          cases (runSequence run direction rest done.tutorial).fault with
          | none =>
              simp only [List.flatMap_cons, List.append_assoc]
              exact hfirst.trans hlater
          | some fault =>
              -- What is run the other way is reported as well, whether it fails or not.
              have hback := hrun done.command hheight direction.opposite
                (runSequence run direction rest done.tutorial).tutorial
                ((runSequence run direction rest done.tutorial).command.flatMap items ++ others)
              simp only [List.flatMap_cons, List.append_assoc]
              exact hfirst.trans (hlater.trans hback)

theorem edits_of_run (direction : Direction) (command : Command) (tutorial : LiveTutorial)
    (others : List Item) :
    Edits inPlace (tutorial.stock (command.items ++ others))
      (run direction command tutorial).changes
      ((run direction command tutorial).tutorial.stock
        ((run direction command tutorial).command.items ++ others)) := by
  induction command generalizing direction tutorial others with
  | action a =>
      rw [items_action, run_action]
      exact edits_of_runAction direction a tutorial others
  | group label members ih =>
      have hsequence := edits_of_runSequence (fun command h direction => ih command h direction)
        direction (heightAll_ordered_le direction members) tutorial others
      have hordered : forall members : List Command,
          (members.flatMap items ++ others).Perm
            ((ordered direction members).flatMap items ++ others) :=
        fun members => ((ordered_perm direction members).symm.flatMap_right items).append_right _
      rw [run_group, items_group]
      simp only [Attempt.map, items_group]
      exact hsequence.beside (hordered members) (hordered _)

theorem items_of_finish? {text : String} {members : List Command} {command : Command}
    (h : finish? text members = some command) : command.items = members.flatMap items := by
  unfold finish? at h
  split at h
  · cases h
  · cases h
    exact items_group ..
  · cases h
    exact items_group ..

end Command

/-!
# Histories

A command that can no longer be applied again goes with what it holds.
-/

namespace History

variable {inPlace : Bool}

def items (history : History) : List Item :=
  (history.applied ++ history.undone).flatMap Command.items

theorem edits_of_push (command : Command) (history : History) (tutorial : LiveTutorial)
    (others : List Item) :
    Edits inPlace (tutorial.stock (command.items ++ (history.items ++ others)))
      (history.push command tutorial).changes
      ((history.push command tutorial).tutorial.stock
        ((history.push command tutorial).history.items ++ others)) := by
  have hrun : Edits inPlace _ _ _ := Command.edits_of_run .redo command tutorial
    (history.items ++ others)
  rw [push]
  generalize command.run .redo tutorial = attempt at hrun ⊢
  cases hfault : attempt.fault with
  | some fault => exact hrun.losing _ List.perm_append_comm
  | none =>
      refine hrun.losing (history.undone.flatMap Command.items) ?_
      simp only [record, items, List.append_nil, List.flatMap_append, List.flatMap_cons,
        List.append_assoc]
      exact (List.perm_append_comm.append_left _).append_left _

theorem edits_of_commit (text : String) (members : List Command) (history : History)
    (tutorial : LiveTutorial) (others : List Item) :
    Edits inPlace (tutorial.stock (members.flatMap Command.items ++ (history.items ++ others)))
      (history.commit text members tutorial).changes
      ((history.commit text members tutorial).tutorial.stock
        ((history.commit text members tutorial).history.items ++ others)) := by
  rw [commit]
  cases hfinish : Command.finish? text members with
  | none => exact (Edits.refl _).losing _ List.perm_append_comm
  | some command =>
      rw [← Command.items_of_finish? hfinish]
      exact history.edits_of_push command tutorial others

theorem edits_of_undo (history : History) (tutorial : LiveTutorial) (others : List Item) :
    Edits inPlace (tutorial.stock (history.items ++ others)) (history.undo tutorial).changes
      ((history.undo tutorial).tutorial.stock
        ((history.undo tutorial).history.items ++ others)) := by
  rcases history with ⟨applied, undone, mark⟩
  cases applied with
  | nil => exact .refl _
  | cons command rest =>
      have hrun : Edits inPlace _ _ _ := Command.edits_of_run .undo command tutorial
        (rest.flatMap Command.items ++ (undone.flatMap Command.items ++ others))
      simp only [undo]
      generalize command.run .undo tutorial = attempt at hrun ⊢
      simp only [items, List.cons_append, List.flatMap_cons, List.flatMap_append, List.append_assoc]
      cases hfault : attempt.fault with
      | some fault =>
          simp only [List.flatMap_cons, List.append_assoc]
          exact hrun
      | none =>
          refine hrun.beside (.refl _) ?_
          simp only [List.flatMap_cons, List.append_assoc]
          exact List.perm_append_comm_assoc ..

theorem edits_of_redo (history : History) (tutorial : LiveTutorial) (others : List Item) :
    Edits inPlace (tutorial.stock (history.items ++ others)) (history.redo tutorial).changes
      ((history.redo tutorial).tutorial.stock
        ((history.redo tutorial).history.items ++ others)) := by
  rcases history with ⟨applied, undone, mark⟩
  cases undone with
  | nil => exact .refl _
  | cons command rest =>
      have hrun : Edits inPlace _ _ _ := Command.edits_of_run .redo command tutorial
        (applied.flatMap Command.items ++ (rest.flatMap Command.items ++ others))
      have hbefore : (items ⟨applied, command :: rest, mark⟩ ++ others).Perm
          (command.items ++
            (applied.flatMap Command.items ++ (rest.flatMap Command.items ++ others))) := by
        simp only [items, List.flatMap_append, List.flatMap_cons, List.append_assoc]
        exact List.perm_append_comm_assoc ..
      simp only [redo]
      generalize command.run .redo tutorial = attempt at hrun ⊢
      cases hfault : attempt.fault with
      | some fault =>
          refine hrun.beside hbefore ?_
          simp only [items, List.flatMap_append, List.flatMap_cons, List.append_assoc]
          exact List.perm_append_comm_assoc ..
      | none =>
          refine hrun.beside hbefore ?_
          simp only [items, List.cons_append, List.flatMap_append, List.flatMap_cons,
            List.append_assoc]
          exact .refl _

end History

end TutorialKit
