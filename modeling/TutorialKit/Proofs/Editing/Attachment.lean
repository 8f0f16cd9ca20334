import TutorialKit.Proofs.Editing.Places

/-!
# Attaching and detaching

What the tutorial holds is listed once: every step and every reaction by its key.  Attaching a step
or a reaction leads from a tutorial to one that holds it at a place, and detaching leads back to
exactly the tutorial that was left.
-/

namespace TutorialKit

namespace LiveStep

def entities (step : LiveStep) : List Entity :=
  .step step.key :: step.reactions.map fun reaction => .reaction reaction.key

@[simp] theorem entities_set (step : LiveStep) (field : StepField) (text : String) :
    (step.set field text).entities = step.entities := by
  cases field <;> rfl

@[simp] theorem key_set (step : LiveStep) (field : StepField) (text : String) :
    (step.set field text).key = step.key := by
  cases field <;> rfl

theorem set_get_set (step : LiveStep) (field : StepField) (text : String) :
    (step.set field text).set field (step.get field) = step := by
  cases field <;> rfl

theorem get_set (step : LiveStep) (field : StepField) (text : String) :
    (step.set field text).get field = text := by
  cases field <;> rfl

theorem entities_updateReaction (step : LiveStep) (key : ReactionKey)
    {f : LiveReaction -> LiveReaction} (h : forall reaction, (f reaction).key = reaction.key) :
    (step.updateReaction key f).entities = step.entities := by
  simp only [entities, updateReaction]
  rw [map_replaceFirst]
  intro reaction
  rw [h]

end LiveStep

namespace LiveTutorial

def entities (tutorial : LiveTutorial) : List Entity :=
  tutorial.steps.flatMap LiveStep.entities

@[simp] theorem entities_set (tutorial : LiveTutorial) (field : TutorialField) (text : String) :
    (tutorial.set field text).entities = tutorial.entities := by
  cases field <;> rfl

theorem set_get_set (tutorial : LiveTutorial) (field : TutorialField) (text : String) :
    (tutorial.set field text).set field (tutorial.get field) = tutorial := by
  cases field <;> rfl

theorem get_set (tutorial : LiveTutorial) (field : TutorialField) (text : String) :
    (tutorial.set field text).get field = text := by
  cases field <;> rfl

/-!
# Steps that are found

A step that is found keeps its place, whatever it is replaced by.
-/

theorem key_of_step? {tutorial : LiveTutorial} {key : StepKey} {step : LiveStep}
    (h : tutorial.step? key = some step) : step.key = key := by
  have hkey := List.find?_some h
  simpa using hkey

theorem mem_of_step? {tutorial : LiveTutorial} {key : StepKey} {step : LiveStep}
    (h : tutorial.step? key = some step) : step ∈ tutorial.steps :=
  List.mem_of_find?_eq_some h

theorem step?_updateStep {tutorial : LiveTutorial} {key : StepKey} {step step' : LiveStep}
    (h : tutorial.step? key = some step) (hkey : step'.key = key) :
    (tutorial.updateStep key fun _ => step').step? key = some step' :=
  find?_replaceFirst h (by simp [hkey])

theorem updateStep_updateStep {tutorial : LiveTutorial} {key : StepKey} {step : LiveStep}
    {f g : LiveStep -> LiveStep} (h : tutorial.step? key = some step)
    (hkey : (f step).key = key) (hback : g (f step) = step) :
    (tutorial.updateStep key f).updateStep key g = tutorial := by
  have hsteps := replaceFirst_replaceFirst h (by simp [hkey]) hback
  simp only [updateStep, hsteps]

theorem steps_updateStep {tutorial : LiveTutorial} {key : StepKey} {step : LiveStep}
    (h : tutorial.step? key = some step) :
    exists before after, tutorial.steps = before ++ step :: after ∧
      forall f, tutorial.updateStep key f =
        { tutorial with steps := before ++ f step :: after } := by
  rcases find?_split h with ⟨before, after, hsteps, hstep, hbefore⟩
  refine ⟨before, after, hsteps, ?_⟩
  intro f
  rw [updateStep, hsteps, replaceFirst_append f (p := fun step => step.key == key) hstep hbefore]

theorem updateStep_congr {tutorial : LiveTutorial} {key : StepKey} {step : LiveStep}
    {f g : LiveStep -> LiveStep} (h : tutorial.step? key = some step) (hfg : f step = g step) :
    tutorial.updateStep key f = tutorial.updateStep key g := by
  rcases steps_updateStep h with ⟨before, after, -, hupdate⟩
  rw [hupdate, hupdate, hfg]

theorem flatMap_updateStep {β : Type} {tutorial : LiveTutorial} {key : StepKey} {step : LiveStep}
    {f : LiveStep -> LiveStep} (g : LiveStep -> List β) (more : List β)
    (h : tutorial.step? key = some step) (hf : (g (f step)).Perm (more ++ g step)) :
    ((tutorial.updateStep key f).steps.flatMap g).Perm (more ++ tutorial.steps.flatMap g) := by
  rcases steps_updateStep h with ⟨before, after, hsteps, hupdate⟩
  rw [hupdate]
  simp only [hsteps, List.flatMap_append, List.flatMap_cons]
  have hmiddle := (hf.append_right (after.flatMap g)).append_left (before.flatMap g)
  rw [List.append_assoc] at hmiddle
  exact hmiddle.trans (List.perm_append_comm_assoc _ _ _)

/-!
# Reactions that are found

The same of a reaction, in whatever step it is.
-/

theorem hasReaction_of_reaction? {step : LiveStep} {key : ReactionKey} {reaction : LiveReaction}
    (h : step.reaction? key = some reaction) : step.hasReaction key = true := by
  rw [LiveStep.hasReaction, List.any_eq_true]
  rcases find?_split h with ⟨before, after, hreactions, hkey, -⟩
  exact ⟨reaction, by simp [hreactions], hkey⟩

theorem hasReaction_of_reaction?_none {step : LiveStep} {key : ReactionKey}
    (h : step.reaction? key = none) : step.hasReaction key = false := by
  rw [LiveStep.hasReaction, List.any_eq_false]
  exact List.find?_eq_none.mp h

theorem steps_updateReaction {tutorial : LiveTutorial} {key : ReactionKey}
    {reaction : LiveReaction} (h : tutorial.reaction? key = some reaction) :
    exists before step after, tutorial.steps = before ++ step :: after ∧
      step.reaction? key = some reaction ∧
      (forall other, other ∈ before -> other.reaction? key = none) ∧
      forall f, tutorial.updateReaction key f =
        { tutorial with steps := before ++ step.updateReaction key f :: after } := by
  rcases List.findSome?_eq_some_iff.mp h with ⟨before, step, after, hsteps, hstep, hbefore⟩
  refine ⟨before, step, after, hsteps, hstep, hbefore, ?_⟩
  intro f
  have habsent : forall other, other ∈ before -> other.hasReaction key = false :=
    fun other hother => hasReaction_of_reaction?_none (hbefore other hother)
  rw [updateReaction, hsteps, replaceFirst_append _ (p := fun step => LiveStep.hasReaction key step)
    (hasReaction_of_reaction? hstep) habsent]

theorem key_of_reaction? {tutorial : LiveTutorial} {key : ReactionKey} {reaction : LiveReaction}
    (h : tutorial.reaction? key = some reaction) : reaction.key = key := by
  rcases steps_updateReaction h with ⟨_, step, _, _, hstep, _⟩
  have hkey := List.find?_some hstep
  simpa using hkey

theorem reaction?_updateReaction {tutorial : LiveTutorial} {key : ReactionKey}
    {reaction : LiveReaction} {f : LiveReaction -> LiveReaction}
    (h : tutorial.reaction? key = some reaction) (hf : (f reaction).key = reaction.key) :
    (tutorial.updateReaction key f).reaction? key = some (f reaction) := by
  have hkey := key_of_reaction? h
  rcases steps_updateReaction h with ⟨before, step, after, -, hstep, hbefore, hupdate⟩
  have hfound : (step.updateReaction key f).reaction? key = some (f reaction) :=
    find?_replaceFirst hstep (by simp [hf, hkey])
  rw [hupdate, reaction?, List.findSome?_append, List.findSome?_eq_none_iff.mpr hbefore]
  simp [hfound]

theorem updateReaction_updateReaction {tutorial : LiveTutorial} {key : ReactionKey}
    {reaction : LiveReaction} {f g : LiveReaction -> LiveReaction}
    (h : tutorial.reaction? key = some reaction) (hf : (f reaction).key = reaction.key)
    (hback : g (f reaction) = reaction) :
    (tutorial.updateReaction key f).updateReaction key g = tutorial := by
  have hkey := key_of_reaction? h
  rcases steps_updateReaction h with ⟨before, step, after, hsteps, hstep, hbefore, hupdate⟩
  have hfound : (step.updateReaction key f).reaction? key = some (f reaction) :=
    find?_replaceFirst hstep (by simp [hf, hkey])
  have habsent : forall other, other ∈ before -> other.hasReaction key = false :=
    fun other hother => hasReaction_of_reaction?_none (hbefore other hother)
  have hstepBack : (step.updateReaction key f).updateReaction key g = step := by
    have hreactions := replaceFirst_replaceFirst hstep (f := f) (g := g)
      (by simp [hf, hkey]) hback
    simp only [LiveStep.updateReaction, hreactions]
  rw [hupdate]
  simp only [updateReaction]
  rw [replaceFirst_append _ (p := fun step => LiveStep.hasReaction key step)
    (hasReaction_of_reaction? hfound) habsent, hstepBack, ← hsteps]

theorem entities_updateReaction (tutorial : LiveTutorial) (key : ReactionKey)
    {f : LiveReaction -> LiveReaction} (h : forall reaction, (f reaction).key = reaction.key) :
    (tutorial.updateReaction key f).entities = tutorial.entities := by
  have hmap := map_replaceFirst (p := fun step => LiveStep.hasReaction key step)
    (l := tutorial.steps)
    LiveStep.entities fun step => step.entities_updateReaction key h
  simp only [entities, List.flatMap_def, updateReaction, hmap]

/-!
# One step more

The two halves of every attaching and detaching action: how the tutorials are related, and that the
relation is what attaching and detaching compute.
-/

/-- `more` is the tutorial with a step attached at `index`. -/
def StepPlaced (tutorial : LiveTutorial) (index : Nat) (step : LiveStep) (more : LiveTutorial) :
    Prop :=
  exists steps, Placed (fun other => other.key == step.key) tutorial.steps index step steps ∧
    more = { tutorial with steps := steps }

theorem StepPlaced.flatMap_perm {β : Type} {tutorial more : LiveTutorial} {index : Nat}
    {step : LiveStep} (h : tutorial.StepPlaced index step more) (g : LiveStep -> List β) :
    (more.steps.flatMap g).Perm (g step ++ tutorial.steps.flatMap g) := by
  rcases h with ⟨steps, hplaced, rfl⟩
  exact hplaced.perm.flatMap_right g

theorem StepPlaced.entities_perm {tutorial more : LiveTutorial} {index : Nat} {step : LiveStep}
    (h : tutorial.StepPlaced index step more) :
    more.entities.Perm (step.entities ++ tutorial.entities) :=
  h.flatMap_perm LiveStep.entities

theorem StepPlaced.unique {tutorial tutorial' more : LiveTutorial} {index index' : Nat}
    {step step' : LiveStep} (h : tutorial.StepPlaced index step more)
    (h' : tutorial'.StepPlaced index' step' more) (hkey : step.key = step'.key) :
    tutorial = tutorial' ∧ index = index' ∧ step = step' := by
  rcases h with ⟨steps, hplaced, rfl⟩
  rcases h' with ⟨steps', hplaced', hmore⟩
  cases tutorial
  cases tutorial'
  cases hmore
  rw [hkey] at hplaced
  rcases hplaced.unique hplaced' with ⟨rfl, hindex, hstep⟩
  exact ⟨rfl, hindex, hstep⟩

theorem StepPlaced.stepIndex? {tutorial more : LiveTutorial} {index : Nat} {step : LiveStep}
    (h : tutorial.StepPlaced index step more) : more.stepIndex? step.key = some index := by
  rcases h with ⟨steps, hplaced, rfl⟩
  exact hplaced.findIdx?

/-!
# One reaction more

The relation for a reaction and the step that it is attached to.
-/

/-- `more` is the tutorial with a reaction attached to the step with a key, at `index`. -/
def ReactionPlaced (tutorial : LiveTutorial) (key : StepKey) (index : Nat)
    (reaction : LiveReaction) (more : LiveTutorial) : Prop :=
  exists step reactions, tutorial.step? key = some step ∧
    Placed (fun other => other.key == reaction.key) step.reactions index reaction reactions ∧
    more = tutorial.updateStep key fun step => { step with reactions := reactions }

theorem ReactionPlaced.entities_perm {tutorial more : LiveTutorial} {key : StepKey} {index : Nat}
    {reaction : LiveReaction} (h : tutorial.ReactionPlaced key index reaction more) :
    more.entities.Perm (.reaction reaction.key :: tutorial.entities) := by
  rcases h with ⟨step, reactions, hstep, hplaced, rfl⟩
  apply flatMap_updateStep LiveStep.entities [.reaction reaction.key] hstep
  have hreactions := hplaced.perm.map fun reaction => Entity.reaction reaction.key
  exact (hreactions.cons _).trans (List.Perm.swap _ _ _)

theorem ReactionPlaced.step? {tutorial more : LiveTutorial} {key : StepKey} {index : Nat}
    {reaction : LiveReaction} (h : tutorial.ReactionPlaced key index reaction more) :
    exists step reactions, tutorial.step? key = some step ∧
      Placed (fun other => other.key == reaction.key) step.reactions index reaction reactions ∧
      more.step? key = some { step with reactions := reactions } ∧
      tutorial = more.updateStep key fun _ => step := by
  rcases h with ⟨step, reactions, hstep, hplaced, rfl⟩
  have hkey := key_of_step? hstep
  rw [updateStep_congr hstep (g := fun _ => { step with reactions := reactions }) rfl]
  refine ⟨step, reactions, hstep, hplaced, step?_updateStep hstep hkey, ?_⟩
  exact (updateStep_updateStep hstep hkey rfl).symm

theorem ReactionPlaced.unique {tutorial tutorial' more : LiveTutorial} {key : StepKey}
    {index index' : Nat} {reaction reaction' : LiveReaction}
    (h : tutorial.ReactionPlaced key index reaction more)
    (h' : tutorial'.ReactionPlaced key index' reaction' more)
    (hkey : reaction.key = reaction'.key) :
    tutorial = tutorial' ∧ index = index' ∧ reaction = reaction' := by
  rcases h.step? with ⟨step, reactions, -, hplaced, hmore, htutorial⟩
  rcases h'.step? with ⟨step', reactions', -, hplaced', hmore', htutorial'⟩
  rw [hmore] at hmore'
  rw [hkey] at hplaced
  cases step
  cases step'
  cases hmore'
  rcases hplaced.unique hplaced' with ⟨rfl, hindex, hreaction⟩
  exact ⟨by rw [htutorial, htutorial'], hindex, hreaction⟩

/-!
# Keys that occur once

Where no key occurs twice, a key leads to one step or reaction only.
-/

theorem pairwise_step_keys {tutorial : LiveTutorial} (h : tutorial.entities.Nodup)
    (key : StepKey) :
    tutorial.steps.Pairwise fun b c => ¬ ((b.key == key) = true ∧ (c.key == key) = true) := by
  have hsteps := (List.pairwise_flatMap.mp h).2
  apply hsteps.imp
  intro b c hdistinct hkeys
  have hbc : b.key = c.key := by
    rw [eq_of_beq hkeys.1, eq_of_beq hkeys.2]
  exact hdistinct (.step b.key) (by simp [LiveStep.entities]) (.step c.key)
    (by simp [LiveStep.entities]) (by rw [hbc])

theorem pairwise_reaction_keys {tutorial : LiveTutorial} (h : tutorial.entities.Nodup)
    {step : LiveStep} (hstep : step ∈ tutorial.steps) (key : ReactionKey) :
    step.reactions.Pairwise fun b c =>
      ¬ ((b.key == key) = true ∧ (c.key == key) = true) := by
  have hentities := (List.pairwise_flatMap.mp h).1 step hstep
  have hreactions := List.pairwise_map.mp (List.pairwise_cons.mp hentities).2
  apply hreactions.imp
  intro b c hdistinct hkeys
  apply hdistinct
  rw [eq_of_beq hkeys.1, eq_of_beq hkeys.2]

end LiveTutorial

namespace Action

@[simp] theorem violationToFault_ok {α : Type} (a : α) :
    violationToFault (.ok a) = .ok a := rfl

@[simp] theorem violationToFault_error {α : Type} (violation : Violation) :
    violationToFault (.error violation : Except Violation α) = .error (.violated violation) := rfl

/-!
# Attaching and detaching steps

A step is attached if it is held and not there yet, and detached if it is there.
-/

theorem takeHeld_eq_ok {α : Type} {label : String} {index length : Nat} {held : Option α}
    {entity : α} (h : takeHeld label index length held = .ok entity) :
    index <= length ∧ held = some entity := by
  unfold takeHeld at h
  by_cases hindex : index <= length
  · rw [if_pos hindex] at h
    cases held with
    | none => cases h
    | some other =>
        cases h
        exact ⟨hindex, rfl⟩
  · rw [if_neg hindex] at h
    cases h

theorem takeHeld_some {α : Type} (label : String) {index length : Nat} (h : index <= length)
    (entity : α) : takeHeld label index length (some entity) = .ok entity := by
  rw [takeHeld, if_pos h]

theorem attachStep_eq_ok {label : String} {index : Nat} {held : Option LiveStep}
    {tutorial more : LiveTutorial} {changes : List Change}
    (h : attachStep label index held tutorial = .ok (more, changes)) :
    exists step, held = some step ∧ tutorial.StepPlaced index step more := by
  unfold attachStep at h
  cases htake : takeHeld label index tutorial.steps.length held with
  | error fault =>
      rw [htake] at h
      cases h
  | ok step =>
      rcases takeHeld_eq_ok htake with ⟨hindex, hheld⟩
      rw [htake] at h
      by_cases hpresent : tutorial.hasStep step.key = true
      · simp [LiveTutorial.insertStep, hpresent, bind, Except.bind] at h
      · have habsent : forall other, other ∈ tutorial.steps ->
            (other.key == step.key) = false := by
          simpa [LiveTutorial.hasStep] using hpresent
        simp [LiveTutorial.insertStep, hpresent, hindex, bind, Except.bind,
          pure, Except.pure] at h
        refine ⟨step, hheld, _, placed_insertIdx hindex (by simp) habsent, h.1.symm⟩

theorem attachStep_of_placed {tutorial more : LiveTutorial} {index : Nat} {step : LiveStep}
    (label : String) (h : tutorial.StepPlaced index step more) :
    attachStep label index (some step) tutorial = .ok (more, [.stepAdded step.key index]) := by
  rcases h with ⟨steps, hplaced, rfl⟩
  have habsent : tutorial.hasStep step.key = false := by
    simpa [LiveTutorial.hasStep] using hplaced.absent
  rw [attachStep, takeHeld_some label hplaced.index_le]
  simp [LiveTutorial.insertStep, habsent, hplaced.index_le, bind, Except.bind,
    pure, Except.pure, hplaced.eq_insertIdx]

theorem detachStep_of_placed {tutorial more : LiveTutorial} {index : Nat} {step : LiveStep}
    (h : tutorial.StepPlaced index step more) :
    detachStep step.key more = .ok (tutorial, step, index, [.stepRemoved step.key]) := by
  rcases h with ⟨steps, hplaced, rfl⟩
  simp [detachStep, LiveTutorial.stepIndex?, LiveTutorial.removeStep, LiveTutorial.step?,
    hplaced.findIdx?, hplaced.find?, hplaced.eraseP, bind, Except.bind,
    pure, Except.pure]

theorem detachStep_eq_ok {key : StepKey} {more tutorial : LiveTutorial} {step : LiveStep}
    {index : Nat} {changes : List Change} (hunique : more.entities.Nodup)
    (h : detachStep key more = .ok (tutorial, step, index, changes)) :
    step.key = key ∧ tutorial.StepPlaced index step more := by
  cases hfind : more.step? key with
  | none =>
      have hindex : more.stepIndex? key = none := by
        simpa [LiveTutorial.stepIndex?, LiveTutorial.step?] using hfind
      rw [detachStep, hindex] at h
      cases h
  | some found =>
      have hkey := LiveTutorial.key_of_step? hfind
      rcases exists_placed_of_find? hfind (LiveTutorial.pairwise_step_keys hunique key) with
        ⟨place, hplaced⟩
      rw [← hkey] at hplaced h
      have hplaced' : LiveTutorial.StepPlaced
          { more with steps := more.steps.eraseP fun other => other.key == found.key }
          place found more := ⟨more.steps, hplaced, rfl⟩
      rw [detachStep_of_placed hplaced'] at h
      cases h
      exact ⟨hkey, hplaced'⟩

theorem detachStep_eq_error {key : StepKey} {tutorial : LiveTutorial} {fault : Fault}
    (h : detachStep key tutorial = .error fault) :
    tutorial.stepIndex? key = none ∧ fault = .refused (.stepNotFound key) := by
  cases hindex : tutorial.stepIndex? key with
  | none =>
      rw [detachStep, hindex] at h
      cases h
      exact ⟨rfl, rfl⟩
  | some place =>
      rcases exists_find?_of_findIdx? hindex with ⟨step, hstep⟩
      simp [detachStep, hindex, LiveTutorial.removeStep, LiveTutorial.step?, hstep, bind,
        Except.bind, pure, Except.pure] at h

/-!
# Attaching and detaching reactions

The same of a reaction in the step that is named with it.
-/

theorem findStep_eq_ok {key : StepKey} {tutorial : LiveTutorial} {step : LiveStep}
    (h : findStep key tutorial = .ok step) : tutorial.step? key = some step := by
  unfold findStep at h
  cases hfind : tutorial.step? key with
  | none =>
      rw [hfind] at h
      cases h
  | some found =>
      rw [hfind] at h
      cases h
      rfl

theorem findStep_of_step? {key : StepKey} {tutorial : LiveTutorial} {step : LiveStep}
    (h : tutorial.step? key = some step) : findStep key tutorial = .ok step := by
  rw [findStep, h]

theorem attachReaction_eq_ok {label : String} {key : StepKey} {index : Option Nat}
    {held : Option LiveReaction} {tutorial more : LiveTutorial} {changes : List Change}
    (h : attachReaction label key index held tutorial = .ok (more, changes)) :
    exists step reaction, tutorial.step? key = some step ∧ held = some reaction ∧
      tutorial.ReactionPlaced key (index.getD step.reactions.length) reaction more := by
  unfold attachReaction at h
  cases hfind : findStep key tutorial with
  | error fault =>
      rw [hfind] at h
      cases h
  | ok step =>
      have hstep := findStep_eq_ok hfind
      rw [hfind] at h
      cases htake : takeHeld label (index.getD step.reactions.length) step.reactions.length
          held with
      | error fault =>
          simp [bind, Except.bind, htake] at h
      | ok reaction =>
          rcases takeHeld_eq_ok htake with ⟨hindex, hheld⟩
          by_cases hpresent : step.hasReaction reaction.key = true
          · simp [LiveStep.insertReaction, hpresent, bind, Except.bind,
              htake] at h
          · have habsent : forall other, other ∈ step.reactions ->
                (other.key == reaction.key) = false := by
              simpa [LiveStep.hasReaction] using hpresent
            simp [LiveStep.insertReaction, hpresent, hindex, bind,
              Except.bind, pure, Except.pure, htake] at h
            refine ⟨step, reaction, hstep, hheld, step, _, hstep,
              placed_insertIdx hindex (by simp) habsent, ?_⟩
            rw [← h.1]
            exact LiveTutorial.updateStep_congr hstep rfl

theorem attachReaction_of_placed {tutorial more : LiveTutorial} {key : StepKey} {index : Nat}
    {reaction : LiveReaction} {step : LiveStep} (label : String) (place : Option Nat)
    (h : tutorial.ReactionPlaced key index reaction more)
    (hstep : tutorial.step? key = some step)
    (hplace : place.getD step.reactions.length = index) :
    attachReaction label key place (some reaction) tutorial =
      .ok (more, [.reactionAdded key reaction.key index]) := by
  rcases h with ⟨found, reactions, hfound, hplaced, rfl⟩
  rw [hstep] at hfound
  cases hfound
  have habsent : step.hasReaction reaction.key = false := by
    simpa [LiveStep.hasReaction] using hplaced.absent
  have hupdate := LiveTutorial.updateStep_congr hstep
    (f := fun _ => { step with reactions := reactions })
    (g := fun step => { step with reactions := reactions }) rfl
  simp [attachReaction, findStep_of_step? hstep, hplace, takeHeld_some label hplaced.index_le,
    LiveStep.insertReaction, habsent, hplaced.index_le, bind, Except.bind,
    pure, Except.pure, ← hplaced.eq_insertIdx, hupdate]

theorem detachReaction_of_placed {tutorial more : LiveTutorial} {key : StepKey} {index : Nat}
    {reaction : LiveReaction} (h : tutorial.ReactionPlaced key index reaction more) :
    detachReaction key reaction.key more =
      .ok (tutorial, reaction, index, [.reactionRemoved key reaction.key]) := by
  rcases h.step? with ⟨step, reactions, hstep, hplaced, hmore, htutorial⟩
  simp [detachReaction, findStep_of_step? hmore, LiveStep.reactionIndex?,
    LiveStep.removeReaction, LiveStep.reaction?, hplaced.findIdx?, hplaced.find?,
    hplaced.eraseP, bind, Except.bind, pure, Except.pure,
    ← htutorial]

theorem detachReaction_eq_ok {stepKey : StepKey} {key : ReactionKey}
    {more tutorial : LiveTutorial} {reaction : LiveReaction} {index : Nat}
    {changes : List Change} (hunique : more.entities.Nodup)
    (h : detachReaction stepKey key more = .ok (tutorial, reaction, index, changes)) :
    reaction.key = key ∧ tutorial.ReactionPlaced stepKey index reaction more := by
  cases hstep : more.step? stepKey with
  | none =>
      simp [detachReaction, findStep, hstep, bind, Except.bind] at h
  | some step =>
      cases hfind : step.reaction? key with
      | none =>
          have hindex : step.reactionIndex? key = none := by
            simpa [LiveStep.reactionIndex?, LiveStep.reaction?] using hfind
          simp [detachReaction, findStep_of_step? hstep, hindex, bind, Except.bind] at h
      | some found =>
          have hkey : found.key = key := by
            have hfound := List.find?_some hfind
            simpa using hfound
          rcases exists_placed_of_find? hfind (LiveTutorial.pairwise_reaction_keys hunique
            (LiveTutorial.mem_of_step? hstep) key) with ⟨place, hplaced⟩
          have hstepKey : step.key = stepKey := LiveTutorial.key_of_step? hstep
          rw [← hkey] at hplaced h
          -- the tutorial without the reaction, from which it is attached again
          have hback := LiveTutorial.updateStep_updateStep hstep
            (f := fun _ => { step with
              reactions := step.reactions.eraseP fun other => other.key == found.key })
            (g := fun other => { other with reactions := step.reactions })
            hstepKey rfl
          have hplaced' : LiveTutorial.ReactionPlaced (more.updateStep stepKey fun _ =>
              { step with
                reactions := step.reactions.eraseP fun other => other.key == found.key })
              stepKey place found more :=
            ⟨_, step.reactions, LiveTutorial.step?_updateStep hstep hstepKey, hplaced,
              hback.symm⟩
          rw [detachReaction_of_placed hplaced'] at h
          cases h
          exact ⟨hkey, hplaced'⟩

theorem findStep_eq_error {key : StepKey} {tutorial : LiveTutorial} {fault : Fault}
    (h : findStep key tutorial = .error fault) :
    tutorial.step? key = none ∧ fault = .refused (.stepNotFound key) := by
  cases hstep : tutorial.step? key with
  | none =>
      rw [findStep, hstep] at h
      cases h
      exact ⟨rfl, rfl⟩
  | some step =>
      rw [findStep_of_step? hstep] at h
      cases h

theorem detachReaction_eq_error {stepKey : StepKey} {key : ReactionKey} {tutorial : LiveTutorial}
    {fault : Fault} (h : detachReaction stepKey key tutorial = .error fault) :
    (tutorial.step? stepKey = none ∧ fault = .refused (.stepNotFound stepKey)) ∨
      exists step, tutorial.step? stepKey = some step ∧ step.reactionIndex? key = none ∧
        fault = .refused (.reactionNotFound key) := by
  cases hfind : findStep stepKey tutorial with
  | error other =>
      rw [detachReaction, hfind] at h
      cases h
      exact Or.inl (findStep_eq_error hfind)
  | ok step =>
      refine Or.inr ⟨step, findStep_eq_ok hfind, ?_⟩
      cases hindex : step.reactionIndex? key with
      | none =>
          simp only [detachReaction, hfind, hindex, bind, Except.bind] at h
          cases h
          exact ⟨rfl, rfl⟩
      | some place =>
          rcases exists_find?_of_findIdx? hindex with ⟨reaction, hreaction⟩
          simp [detachReaction, hfind, hindex, LiveStep.removeReaction, LiveStep.reaction?,
            hreaction, bind, Except.bind, pure, Except.pure] at h

end Action

end TutorialKit
