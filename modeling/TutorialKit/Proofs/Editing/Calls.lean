import TutorialKit.Proofs.Editing.Rollback

/-!
# Calls in any order

Commands may be carried out and taken back in any order, one of them twice in a row, and may compete
for the same step or reaction; then some of the calls fail.  Whatever the calls are, every step,
reaction and condition stays with one owner, and nothing is ever put where it already is or taken
from where it is not.
-/

namespace TutorialKit

/-!
# Conditions and their reactions

A condition belongs to a reaction, or it waits in a command that sets the condition of the
reaction.  That there is none is exchanged like a condition.
-/

namespace LiveReaction

def keyedCondition (reaction : LiveReaction) : ReactionKey × Option LiveCondition :=
  (reaction.key, reaction.condition)

end LiveReaction

namespace LiveStep

def conditions (step : LiveStep) : List (ReactionKey × Option LiveCondition) :=
  step.reactions.map LiveReaction.keyedCondition

@[simp] theorem conditions_set (step : LiveStep) (field : StepField) (text : String) :
    (step.set field text).conditions = step.conditions := by
  cases field <;> rfl

end LiveStep

namespace LiveTutorial

def conditions (tutorial : LiveTutorial) : List (ReactionKey × Option LiveCondition) :=
  tutorial.steps.flatMap LiveStep.conditions

@[simp] theorem conditions_set (tutorial : LiveTutorial) (field : TutorialField)
    (text : String) : (tutorial.set field text).conditions = tutorial.conditions := by
  cases field <;> rfl

theorem StepPlaced.conditions_perm {tutorial more : LiveTutorial} {index : Nat} {step : LiveStep}
    (h : tutorial.StepPlaced index step more) :
    more.conditions.Perm (step.conditions ++ tutorial.conditions) :=
  h.flatMap_perm LiveStep.conditions

theorem ReactionPlaced.conditions_perm {tutorial more : LiveTutorial} {key : StepKey}
    {index : Nat} {reaction : LiveReaction} (h : tutorial.ReactionPlaced key index reaction more) :
    more.conditions.Perm (reaction.keyedCondition :: tutorial.conditions) := by
  rcases h with ⟨step, reactions, hstep, hplaced, rfl⟩
  apply flatMap_updateStep LiveStep.conditions [reaction.keyedCondition] hstep
  exact hplaced.perm.map LiveReaction.keyedCondition

theorem exchange_perm {β : Type} (before after : List β) (x y : β) :
    (before ++ x :: after ++ [y]).Perm (before ++ y :: after ++ [x]) := by
  rw [List.append_assoc, List.append_assoc]
  apply List.Perm.append_left
  have hlast : (x :: after ++ [y]).Perm (x :: y :: after) :=
    (List.perm_append_singleton y after).cons x
  have hback : (y :: after ++ [x]).Perm (y :: x :: after) :=
    (List.perm_append_singleton x after).cons y
  exact hlast.trans ((List.Perm.swap y x after).trans hback.symm)

theorem conditions_updateReaction {tutorial : LiveTutorial} {key : ReactionKey}
    {reaction : LiveReaction} (f : LiveReaction -> LiveReaction)
    (h : tutorial.reaction? key = some reaction) :
    ((tutorial.updateReaction key f).conditions ++ [reaction.keyedCondition]).Perm
      (tutorial.conditions ++ [(f reaction).keyedCondition]) := by
  rcases steps_updateReaction h with ⟨before, step, after, hsteps, hstep, -, hupdate⟩
  rcases find?_split hstep with ⟨earlier, later, hreactions, hkey, hearlier⟩
  have hstep' : (step.updateReaction key f).reactions = earlier ++ f reaction :: later := by
    rw [LiveStep.updateReaction, hreactions,
      replaceFirst_append f (p := fun reaction => reaction.key == key) hkey hearlier]
  rw [hupdate]
  simp only [conditions, hsteps, List.flatMap_append, List.flatMap_cons, LiveStep.conditions,
    hstep', hreactions, List.map_append, List.map_cons]
  have hperm := exchange_perm
    (before.flatMap LiveStep.conditions ++ earlier.map LiveReaction.keyedCondition)
    (later.map LiveReaction.keyedCondition ++ after.flatMap LiveStep.conditions)
    (f reaction).keyedCondition reaction.keyedCondition
  simpa [LiveStep.conditions] using hperm

end LiveTutorial

namespace Action

def conditions : Action -> List (ReactionKey × Option LiveCondition)
  | setReaction key (.condition condition) => [(key, condition)]
  | addStep _ _ held => held.toList.flatMap LiveStep.conditions
  | removeStep _ _ held => held.toList.flatMap LiveStep.conditions
  | addReaction _ _ _ held => held.toList.map LiveReaction.keyedCondition
  | removeReaction _ _ _ held => held.toList.map LiveReaction.keyedCondition
  | _ => []

theorem conditions_exchange {tutorial : LiveTutorial} {key : ReactionKey}
    {reaction : LiveReaction} (value : ReactionValue)
    (h : tutorial.reaction? key = some reaction) :
    ((tutorial.updateReaction key fun reaction => (reaction.exchange value).1).conditions ++
        (setReaction key (reaction.exchange value).2).conditions).Perm
      (tutorial.conditions ++ (setReaction key value).conditions) := by
  have hperm := LiveTutorial.conditions_updateReaction
    (fun reaction => (reaction.exchange value).1) h
  have hkey := LiveTutorial.key_of_reaction? h
  cases value with
  | condition condition =>
      simpa [LiveReaction.keyedCondition, LiveReaction.exchange, conditions, hkey] using hperm
  | trigger | option | response | nextStep | code =>
      simp only [conditions, List.append_nil, LiveReaction.exchange] at hperm ⊢
      exact (List.perm_append_right_iff _).mp hperm

theorem Moves.conditions_perm {direction : Direction} {a a' : Action}
    {tutorial tutorial' : LiveTutorial} (h : Moves direction a tutorial a' tutorial') :
    (tutorial'.conditions ++ a'.conditions).Perm (tutorial.conditions ++ a.conditions) := by
  cases h with
  | setTutorial _ field text => simp [conditions]
  | setStep _ field text hstep =>
      have hset := LiveTutorial.flatMap_updateStep LiveStep.conditions [] hstep
        (f := fun step => step.set field text) (by simp)
      simpa [conditions, LiveTutorial.conditions] using hset
  | setReaction _ value hreaction => exact conditions_exchange value hreaction
  | addStep hplaced =>
      simpa [conditions] using hplaced.conditions_perm.trans List.perm_append_comm
  | unaddStep _ hplaced =>
      simpa [conditions] using List.perm_append_comm.trans hplaced.conditions_perm.symm
  | removeStep _ hplaced =>
      simpa [conditions] using List.perm_append_comm.trans hplaced.conditions_perm.symm
  | unremoveStep hplaced =>
      simpa [conditions] using hplaced.conditions_perm.trans List.perm_append_comm
  | addReaction _ hplaced =>
      simpa [conditions] using
        hplaced.conditions_perm.trans (List.perm_append_singleton _ _).symm
  | unaddReaction _ hplaced =>
      simpa [conditions] using
        (List.perm_append_singleton _ _).trans hplaced.conditions_perm.symm
  | removeReaction _ hplaced =>
      simpa [conditions] using
        (List.perm_append_singleton _ _).trans hplaced.conditions_perm.symm
  | unremoveReaction hplaced =>
      simpa [conditions] using
        hplaced.conditions_perm.trans (List.perm_append_singleton _ _).symm

/-!
# Refusals

An action that fails has been refused.  What could be violated is ruled out before: a place is
looked up before something is taken from it, and what an action holds is nowhere in the tutorial.
-/

theorem takeHeld_eq_error {α : Type} {label : String} {index length : Nat} {held : Option α}
    {fault : Fault} (h : takeHeld label index length held = .error fault) :
    exists refusal, fault = .refused refusal := by
  unfold takeHeld at h
  by_cases hindex : index <= length
  · rw [if_pos hindex] at h
    cases held with
    | some entity => cases h
    | none =>
        cases h
        exact ⟨_, rfl⟩
  · rw [if_neg hindex] at h
    cases h
    exact ⟨_, rfl⟩

theorem attachStep_refused {label : String} {index : Nat} {held : Option LiveStep}
    {tutorial : LiveTutorial} {fault : Fault}
    (hunique : (tutorial.entities ++ held.toList.flatMap LiveStep.entities).Nodup)
    (h : attachStep label index held tutorial = .error fault) :
    exists refusal, fault = .refused refusal := by
  rcases bind_eq_error h with htake | ⟨step, htake, -⟩
  · exact takeHeld_eq_error htake
  · rcases takeHeld_eq_ok htake with ⟨hindex, rfl⟩
    have habsent : forall other, other ∈ tutorial.steps -> (other.key == step.key) = false := by
      intro other hother
      have hentity : Entity.step other.key ∈ tutorial.entities :=
        List.mem_flatMap.mpr ⟨other, hother, List.mem_cons_self⟩
      have hne := (List.nodup_append.mp hunique).2.2 _ hentity (.step step.key)
        (by simp [LiveStep.entities])
      simpa using hne
    have hplaced : tutorial.StepPlaced index step _ :=
      ⟨_, placed_insertIdx hindex (by simp) habsent, rfl⟩
    rw [attachStep_of_placed label hplaced] at h
    cases h

theorem detachStep_refused {key : StepKey} {tutorial : LiveTutorial} {fault : Fault}
    (h : detachStep key tutorial = .error fault) : exists refusal, fault = .refused refusal :=
  ⟨_, (detachStep_eq_error h).2⟩

theorem attachReaction_refused {label : String} {stepKey : StepKey} {index : Option Nat}
    {held : Option LiveReaction} {tutorial : LiveTutorial} {fault : Fault}
    (hunique : (tutorial.entities ++
      held.toList.map fun reaction => Entity.reaction reaction.key).Nodup)
    (h : attachReaction label stepKey index held tutorial = .error fault) :
    exists refusal, fault = .refused refusal := by
  rcases bind_eq_error h with hfind | ⟨step, hfind, hrest⟩
  · exact ⟨_, (findStep_eq_error hfind).2⟩
  · rcases bind_eq_error hrest with htake | ⟨reaction, htake, -⟩
    · exact takeHeld_eq_error htake
    · rcases takeHeld_eq_ok htake with ⟨hindex, rfl⟩
      have hstep := findStep_eq_ok hfind
      have habsent : forall other, other ∈ step.reactions ->
          (other.key == reaction.key) = false := by
        intro other hother
        have hentity : Entity.reaction other.key ∈ tutorial.entities := by
          refine List.mem_flatMap.mpr ⟨step, LiveTutorial.mem_of_step? hstep, ?_⟩
          exact List.mem_cons_of_mem _ (List.mem_map.mpr ⟨other, hother, rfl⟩)
        have hne := (List.nodup_append.mp hunique).2.2 _ hentity (.reaction reaction.key)
          (by simp)
        simpa using hne
      have hplaced : tutorial.ReactionPlaced stepKey (index.getD step.reactions.length) reaction
          _ :=
        ⟨step, _, hstep, placed_insertIdx hindex (by simp) habsent, rfl⟩
      rw [attachReaction_of_placed label index hplaced hstep rfl] at h
      cases h

theorem detachReaction_refused {stepKey : StepKey} {key : ReactionKey} {tutorial : LiveTutorial}
    {fault : Fault} (h : detachReaction stepKey key tutorial = .error fault) :
    exists refusal, fault = .refused refusal := by
  rcases detachReaction_eq_error h with ⟨-, hfault⟩ | ⟨step, -, -, hfault⟩
  · exact ⟨_, hfault⟩
  · exact ⟨_, hfault⟩

theorem refused_of_bind {α β : Type} {x : Except Fault α} {f : α -> β} {fault : Fault}
    (hrefused : x = .error fault -> exists refusal, fault = .refused refusal)
    (h : (x >>= fun a => pure (f a)) = .error fault) :
    exists refusal, fault = .refused refusal := by
  rcases bind_eq_error h with hx | ⟨a, -, hpure⟩
  · exact hrefused hx
  · cases hpure

theorem run_refused {direction : Direction} {a : Action} {tutorial : LiveTutorial} {fault : Fault}
    (hunique : (tutorial.entities ++ a.entities).Nodup)
    (h : a.run direction tutorial = .error fault) : exists refusal, fault = .refused refusal := by
  cases a with
  | setTutorial field text => cases h
  | setStep key field text =>
      exact refused_of_bind (fun hfind => ⟨_, (findStep_eq_error hfind).2⟩) h
  | setReaction key value =>
      cases hreaction : tutorial.reaction? key with
      | none =>
          simp only [run, runSetReaction, hreaction] at h
          cases h
          exact ⟨_, rfl⟩
      | some reaction => simp [run, runSetReaction, hreaction] at h
  | addStep key index held =>
      cases direction with
      | redo => exact refused_of_bind (attachStep_refused hunique) h
      | undo => exact refused_of_bind detachStep_refused h
  | removeStep key index held =>
      cases direction with
      | redo => exact refused_of_bind detachStep_refused h
      | undo => exact refused_of_bind (attachStep_refused hunique) h
  | addReaction stepKey key index held =>
      cases direction with
      | redo => exact refused_of_bind (attachReaction_refused hunique) h
      | undo => exact refused_of_bind detachReaction_refused h
  | removeReaction stepKey key index held =>
      cases direction with
      | redo => exact refused_of_bind detachReaction_refused h
      | undo => exact refused_of_bind (attachReaction_refused hunique) h

theorem Shifts.conditions_perm {tutorial tutorial' : LiveTutorial} {actions actions' : List Action}
    (h : Shifts tutorial actions tutorial' actions') :
    (tutorial'.conditions ++ actions'.flatMap conditions).Perm
      (tutorial.conditions ++ actions.flatMap conditions) :=
  h.keeps LiveTutorial.conditions conditions Moves.conditions_perm

end Action

namespace Command

/-!
# What a run performs

The actions that are carried out while a command is run, each with the tutorial that it meets and
the direction it is run in.  Those that a group runs back are among them, also where the fault of
running back is not looked at.
-/

mutual

inductive Performs :
    Direction -> Command -> LiveTutorial -> Direction -> Action -> LiveTutorial -> Prop where
  | action (direction : Direction) (a : Action) (tutorial : LiveTutorial) :
      Performs direction (action a) tutorial direction a tutorial
  | group {direction towards : Direction} (label : String) {members : List Command} {a : Action}
      {tutorial met : LiveTutorial} :
      PerformsAll direction (ordered direction members) tutorial towards a met ->
      Performs direction (group label members) tutorial towards a met

/-- The same for commands that are run one after the other, as far as that goes. -/
inductive PerformsAll :
    Direction -> List Command -> LiveTutorial -> Direction -> Action -> LiveTutorial -> Prop where
  | first {direction towards : Direction} {first : Command} (rest : List Command) {a : Action}
      {tutorial met : LiveTutorial} :
      Performs direction first tutorial towards a met ->
      PerformsAll direction (first :: rest) tutorial towards a met
  | rest {direction towards : Direction} {first first' : Command} {rest : List Command}
      {a : Action} {tutorial between met : LiveTutorial} :
      Gives direction first tutorial none first' between ->
      PerformsAll direction rest between towards a met ->
      PerformsAll direction (first :: rest) tutorial towards a met
  | back {direction towards : Direction} {first first' : Command} {rest rest' : List Command}
      {a : Action} {tutorial between reached met : LiveTutorial} {fault : Fault} :
      Gives direction first tutorial none first' between ->
      GivesAll direction rest between (some fault) rest' reached ->
      Performs direction.opposite first' reached towards a met ->
      PerformsAll direction (first :: rest) tutorial towards a met

end

theorem PerformsAll.owned {depth : Nat} {direction towards : Direction} {members : List Command}
    {a : Action} {tutorial met : LiveTutorial}
    (hperforms : forall command, height command <= depth ->
      forall {direction towards a tutorial met},
      Performs direction command tutorial towards a met -> Owned tutorial [command] ->
      Owned met [action a])
    (hdepth : heightAll members <= depth) (howned : Owned tutorial members)
    (h : PerformsAll direction members tutorial towards a met) : Owned met [action a] := by
  induction members generalizing tutorial with
  | nil => cases h
  | cons first rest ih =>
      simp only [heightAll] at hdepth
      cases h with
      | first _ hfirst => exact hperforms first (by omega) hfirst howned.head
      | rest hfirst hrest => exact ih (by omega) (howned.gives hfirst).tail hrest
      | back hfirst hrest hback =>
          exact hperforms _ (Nat.le_trans hfirst.height_le (by omega)) hback
            ((howned.gives hfirst).givesRest hrest).head

theorem Performs.owned {direction towards : Direction} {command : Command} {a : Action}
    {tutorial met : LiveTutorial} (h : Performs direction command tutorial towards a met)
    (howned : Owned tutorial [command]) : Owned met [.action a] := by
  induction command generalizing direction towards a tutorial met with
  | action b =>
      cases h with
      | action => exact howned
  | group label members ih =>
      cases h with
      | group _ hmembers =>
          exact hmembers.owned
            (fun command hdepth {_ _ _ _ _} hperforms howned => ih command hdepth hperforms howned)
            (heightAll_ordered_le direction members)
            ((Owned.group_iff.mp howned).perm (ordered_perm direction members))

theorem performs_all_of_fault {depth : Nat} {direction : Direction}
    {members members' : List Command} {tutorial tutorial' : LiveTutorial} {fault : Fault}
    (hperforms : forall command, height command <= depth ->
      forall {direction tutorial fault command' tutorial'},
      Gives direction command tutorial (some fault) command' tutorial' ->
      exists towards a met, Performs direction command tutorial towards a met ∧
        a.run towards met = .error fault)
    (hdepth : heightAll members <= depth)
    (h : GivesAll direction members tutorial (some fault) members' tutorial') :
    exists towards a met, PerformsAll direction members tutorial towards a met ∧
      a.run towards met = .error fault := by
  induction members generalizing tutorial tutorial' members' with
  | nil => cases (givesAll_nil_iff.mp h).1
  | cons first rest ih =>
      simp only [heightAll] at hdepth
      rcases givesAll_cons_some_iff.mp h with ⟨first', hfirst, -⟩ |
        ⟨first', between, rest', reached, fault', first'', hfirst, hrest, -, -⟩
      · rcases hperforms first (by omega) hfirst with ⟨towards, a, met, ha, hrun⟩
        exact ⟨towards, a, met, .first rest ha, hrun⟩
      · rcases ih (by omega) hrest with ⟨towards, a, met, ha, hrun⟩
        exact ⟨towards, a, met, .rest hfirst ha, hrun⟩

theorem Gives.performs {direction : Direction} {command command' : Command}
    {tutorial tutorial' : LiveTutorial} {fault : Fault}
    (h : Gives direction command tutorial (some fault) command' tutorial') :
    exists towards a met, Performs direction command tutorial towards a met ∧
      a.run towards met = .error fault := by
  induction command generalizing direction tutorial fault command' tutorial' with
  | action a =>
      exact ⟨direction, a, tutorial, .action direction a tutorial, (gives_action_some_iff.mp h).1⟩
  | group label members ih =>
      rcases gives_group_iff.mp h with ⟨members', hmembers, -⟩
      rcases performs_all_of_fault
        (fun command hdepth {_ _ _ _ _} hgives => ih command hdepth hgives)
        (heightAll_ordered_le direction members) hmembers with ⟨towards, a, met, ha, hrun⟩
      exact ⟨towards, a, met, .group label ha, hrun⟩

theorem Performs.refused {direction towards : Direction} {command : Command} {a : Action}
    {tutorial met : LiveTutorial} {fault : Fault}
    (h : Performs direction command tutorial towards a met) (howned : Owned tutorial [command])
    (hrun : a.run towards met = .error fault) : exists refusal, fault = .refused refusal := by
  have hunique : (met.entities ++ a.entities).Nodup := by simpa using (h.owned howned).unique
  exact Action.run_refused hunique hrun

theorem Gives.refused {direction : Direction} {command command' : Command}
    {tutorial tutorial' : LiveTutorial} {fault : Fault} (howned : Owned tutorial [command])
    (h : Gives direction command tutorial (some fault) command' tutorial') :
    exists refusal, fault = .refused refusal := by
  rcases h.performs with ⟨towards, a, met, ha, hrun⟩
  exact ha.refused howned hrun

def conditions (command : Command) : List (ReactionKey × Option LiveCondition) :=
  command.actions.flatMap Action.conditions

end Command

/-!
# Calls

A call may be refused, and what it finds depends on all calls before it.  What moves the actions of
one command moves those of all.
-/

/-- A tutorial with the commands that may be called on it. -/
structure Desk where
  tutorial : LiveTutorial
  commands : List Command

structure Call where
  index : Nat
  direction : Direction

namespace Desk

open Command

/-- Runs the command that is called, whatever has become of it before. -/
def call (desk : Desk) (call : Call) : Desk :=
  match desk.commands[call.index]? with
  | none => desk
  | some command =>
      let attempt := command.run call.direction desk.tutorial
      { tutorial := attempt.tutorial
        commands := desk.commands.set call.index attempt.command }

def run (desk : Desk) (calls : List Call) : Desk :=
  calls.foldl call desk

def entities (desk : Desk) : List Entity :=
  desk.tutorial.entities ++ desk.commands.flatMap Command.entities

def conditions (desk : Desk) : List (ReactionKey × Option LiveCondition) :=
  desk.tutorial.conditions ++ desk.commands.flatMap Command.conditions

theorem set_shifts {commands : List Command} {index : Nat} {command' : Command}
    {tutorial tutorial' : LiveTutorial} (hindex : index < commands.length)
    (h : Action.Shifts tutorial commands[index].actions tutorial' command'.actions) :
    Action.Shifts tutorial (commands.flatMap actions) tutorial'
      ((commands.set index command').flatMap actions) := by
  have hsplit : exists before after, commands = before ++ commands[index] :: after ∧
      before.length = index ∧ commands.set index command' = before ++ command' :: after :=
    List.exists_of_set hindex
  rcases hsplit with ⟨before, after, hcommands, -, hset⟩
  have hall := (h.append_right (after.flatMap actions)).append_left (before.flatMap actions)
  rw [hset, congrArg (List.flatMap actions) hcommands]
  simpa only [List.flatMap_append, List.flatMap_cons] using hall

theorem call_shifts {desk : Desk} (howned : Owned desk.tutorial desk.commands) (call : Call) :
    Action.Shifts desk.tutorial (desk.commands.flatMap actions) (desk.call call).tutorial
      ((desk.call call).commands.flatMap actions) := by
  unfold Desk.call
  cases hcommand : desk.commands[call.index]? with
  | none => exact .perm _ (List.Perm.refl _)
  | some command =>
      rcases List.getElem?_eq_some_iff.mp hcommand with ⟨hindex, rfl⟩
      exact set_shifts hindex
        ((gives_run _ _ _).shifts (howned.of_mem (List.getElem_mem hindex)))

theorem owned_of_shifts {desk reached : Desk} (howned : Owned desk.tutorial desk.commands)
    (h : Action.Shifts desk.tutorial (desk.commands.flatMap actions) reached.tutorial
      (reached.commands.flatMap actions)) : Owned reached.tutorial reached.commands := by
  have hnone : Owned desk.tutorial (desk.commands ++ []) := by rwa [List.append_nil]
  have hreached := hnone.shiftsAll h
  rwa [List.append_nil] at hreached

theorem run_shifts {desk : Desk} (howned : Owned desk.tutorial desk.commands)
    (calls : List Call) :
    Action.Shifts desk.tutorial (desk.commands.flatMap actions) (desk.run calls).tutorial
      ((desk.run calls).commands.flatMap actions) := by
  induction calls generalizing desk with
  | nil => exact .perm _ (List.Perm.refl _)
  | cons first rest ih =>
      have hfirst := call_shifts howned first
      exact hfirst.trans (ih (owned_of_shifts howned hfirst))

theorem entities_perm_of_shifts {desk reached : Desk}
    (h : Action.Shifts desk.tutorial (desk.commands.flatMap actions) reached.tutorial
      (reached.commands.flatMap actions)) : reached.entities.Perm desk.entities := by
  have hperm := h.entities_perm
  rwa [List.flatMap_assoc, List.flatMap_assoc] at hperm

theorem conditions_perm_of_shifts {desk reached : Desk}
    (h : Action.Shifts desk.tutorial (desk.commands.flatMap actions) reached.tutorial
      (reached.commands.flatMap actions)) : reached.conditions.Perm desk.conditions := by
  have hperm := h.conditions_perm
  rwa [List.flatMap_assoc, List.flatMap_assoc] at hperm

/--
Whatever has been called, in whatever order, every step and reaction has one owner and is where it
was or has been moved, and so is every condition.  The next call of any command, too, exchanges
something between that command and the tutorial only, and no action that it performs, not even to
run back what has been run, goes against what the tutorial or a step holds.
-/
theorem calls_keep_owners {desk : Desk} (howned : Owned desk.tutorial desk.commands)
    (calls : List Call) :
    let reached := desk.run calls
    Owned reached.tutorial reached.commands ∧ reached.entities.Perm desk.entities ∧
      reached.conditions.Perm desk.conditions ∧
      forall command, command ∈ reached.commands -> forall direction,
        let next := command.run direction reached.tutorial
        (next.tutorial.entities ++ next.command.entities).Perm
            (reached.tutorial.entities ++ command.entities) ∧
          (next.tutorial.conditions ++ next.command.conditions).Perm
            (reached.tutorial.conditions ++ command.conditions) ∧
          (forall violation, next.fault ≠ some (.violated violation)) ∧
          forall towards a met violation,
            Performs direction command reached.tutorial towards a met ->
            a.run towards met ≠ .error (.violated violation) := by
  intro reached
  have hshifts := run_shifts howned calls
  have hreached := owned_of_shifts howned hshifts
  refine ⟨hreached, entities_perm_of_shifts hshifts, conditions_perm_of_shifts hshifts, ?_⟩
  intro command hcommand direction next
  have hcommand' := hreached.of_mem hcommand
  have hgives := gives_run direction command reached.tutorial
  have hnext := hgives.shifts hcommand'
  refine ⟨hnext.entities_perm, hnext.conditions_perm, ?_, ?_⟩
  · intro violation hfault
    rw [show (command.run direction reached.tutorial).fault = _ from hfault] at hgives
    rcases hgives.refused hcommand' with ⟨refusal, hrefusal⟩
    cases hrefusal
  · intro towards a met violation hperforms hrun
    rcases hperforms.refused hcommand' hrun with ⟨refusal, hrefusal⟩
    cases hrefusal

/-- Two commands take out the same step, and one of them is called twice; a group is called while
the step of its reaction is away, and again, but then its last member fails. -/
theorem calls_keep_owners_in_competition :
    let reaction : LiveReaction := ⟨⟨"r"⟩, .conditionMet, "", none, .nextStep, "b", ""⟩
    let step : String -> List LiveReaction -> LiveStep :=
      fun name reactions => ⟨⟨name⟩, name, "", "", "", reactions⟩
    let desk : Desk :=
      ⟨⟨"t", "", "", "", "", [step "a" [reaction], step "b" []]⟩,
        [.action (.removeStep ⟨"a"⟩ 7 none), .action (.removeStep ⟨"a"⟩ 7 none),
          .action (.setReaction ⟨"r"⟩ (.condition (some (.leaf .none .stepActivation)))),
          .group "" [.action (.removeReaction ⟨"a"⟩ ⟨"r"⟩ 7 none),
            .action (.addStep ⟨"c"⟩ none (some (step "c" []))),
            .action (.setStep ⟨"d"⟩ .id "d")]]⟩
    let calls : List Call :=
      [⟨0, .redo⟩, ⟨1, .redo⟩, ⟨1, .undo⟩, ⟨3, .redo⟩, ⟨0, .redo⟩, ⟨0, .undo⟩, ⟨2, .redo⟩,
        ⟨3, .redo⟩, ⟨2, .redo⟩, ⟨1, .redo⟩]
    Owned desk.tutorial desk.commands ∧ (desk.run calls).entities.Perm desk.entities ∧
      (desk.run calls).conditions.Perm desk.conditions := by
  intro reaction step desk calls
  have howned : Owned desk.tutorial desk.commands := by
    constructor
    · simp [desk, Action.Keyed, step]
    · decide
  have hkept := calls_keep_owners howned calls
  exact ⟨howned, hkept.2.1, hkept.2.2.1⟩

end Desk
end TutorialKit
