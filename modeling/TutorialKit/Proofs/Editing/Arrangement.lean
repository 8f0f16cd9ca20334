import Mathlib.Data.List.Perm.Basic
import TutorialKit.Proofs.Editing.Rollback

/-!
# Arrangements

The steps and reactions of a tutorial in their order are its arrangement.  Taking back a command
that removes nothing takes out of it what the command added, and moves nothing else.  So, for such
commands, whatever is put elsewhere than where it stood can be seen in the tutorial itself.
-/

namespace TutorialKit

namespace LiveStep

def place (step : LiveStep) : StepKey × List ReactionKey :=
  (step.key, step.reactions.map LiveReaction.key)

theorem entities_eq (step : LiveStep) :
    step.entities = .step step.place.1 :: step.place.2.map .reaction := by
  simp [entities, place, Function.comp_def]

end LiveStep

namespace LiveTutorial

variable {tutorial tutorial' : LiveTutorial}

theorem reactions_of_entities {keys keys' : List ReactionKey} {steps steps' : List LiveStep}
    (h : keys.map Entity.reaction ++ steps.flatMap LiveStep.entities =
      keys'.map Entity.reaction ++ steps'.flatMap LiveStep.entities) :
    keys = keys' ∧ steps.flatMap LiveStep.entities = steps'.flatMap LiveStep.entities := by
  induction keys generalizing keys' with
  | nil =>
      cases keys' with
      | nil => exact ⟨rfl, h⟩
      | cons key' keys' => cases steps <;> simp [LiveStep.entities] at h
  | cons key keys ih =>
      cases keys' with
      | nil => cases steps' <;> simp [LiveStep.entities] at h
      | cons key' keys' =>
          simp only [List.map_cons, List.cons_append, List.cons.injEq, Entity.reaction.injEq] at h
          rcases ih h.2 with ⟨rfl, hsteps⟩
          exact ⟨by rw [h.1], hsteps⟩

theorem places_of_entities {steps steps' : List LiveStep}
    (h : steps.flatMap LiveStep.entities = steps'.flatMap LiveStep.entities) :
    steps.map LiveStep.place = steps'.map LiveStep.place := by
  induction steps generalizing steps' with
  | nil =>
      cases steps' with
      | nil => rfl
      | cons step' steps' => simp [LiveStep.entities] at h
  | cons step steps ih =>
      cases steps' with
      | nil => simp [LiveStep.entities] at h
      | cons step' steps' =>
          simp only [List.flatMap_cons, LiveStep.entities_eq, List.cons_append, List.cons.injEq,
            Entity.step.injEq] at h
          rcases reactions_of_entities h.2 with ⟨hreactions, hsteps⟩
          rw [List.map_cons, List.map_cons, ih hsteps, Prod.ext h.1 hreactions]

theorem stepIndex?_congr (h : tutorial.entities = tutorial'.entities) (key : StepKey) :
    tutorial.stepIndex? key = tutorial'.stepIndex? key := by
  have hindex := congrArg (List.findIdx? fun place => place.1 == key) (places_of_entities h)
  rw [List.findIdx?_map, List.findIdx?_map] at hindex
  exact hindex

theorem length_steps_congr (h : tutorial.entities = tutorial'.entities) :
    tutorial.steps.length = tutorial'.steps.length := by
  simpa using congrArg List.length (places_of_entities h)

theorem step?_congr (h : tutorial.entities = tutorial'.entities) (key : StepKey) :
    (tutorial.step? key).map LiveStep.place = (tutorial'.step? key).map LiveStep.place := by
  have hfind := congrArg (List.find? fun place => place.1 == key) (places_of_entities h)
  rw [List.find?_map, List.find?_map] at hfind
  exact hfind

end LiveTutorial

namespace LiveStep

theorem reactionIndex?_congr {step step' : LiveStep} (h : step.place = step'.place)
    (key : ReactionKey) : step.reactionIndex? key = step'.reactionIndex? key := by
  have hindex := congrArg (List.findIdx? fun other => other == key) (congrArg Prod.snd h)
  rw [place, place, List.findIdx?_map, List.findIdx?_map] at hindex
  exact hindex

theorem length_reactions_congr {step step' : LiveStep} (h : step.place = step'.place) :
    step.reactions.length = step'.reactions.length := by
  simpa [place] using congrArg List.length (congrArg Prod.snd h)

end LiveStep

namespace Action

theorem inPlace_congr {a : Action} {tutorial tutorial' : LiveTutorial}
    (h : tutorial.entities = tutorial'.entities) (ha : a.InPlace tutorial) :
    a.InPlace tutorial' := by
  cases a with
  | addStep key index held =>
      intro place hplace
      rw [← LiveTutorial.stepIndex?_congr h] at hplace
      rw [← LiveTutorial.length_steps_congr h]
      exact ha place hplace
  | addReaction stepKey key index held =>
      intro step' place hstep' hplace
      have hstep := LiveTutorial.step?_congr h stepKey
      rw [hstep', Option.map_some, Option.map_eq_some_iff] at hstep
      rcases hstep with ⟨step, hstep, hsame⟩
      rw [← LiveStep.reactionIndex?_congr hsame] at hplace
      rw [← LiveStep.length_reactions_congr hsame]
      exact ha step place hstep hplace
  | _ => trivial

/-!
# Commands that remove nothing

What such a command holds is known: something before it has been carried out, and nothing
afterwards.
-/

def IsRemoval : Action -> Prop
  | removeStep .. => True
  | removeReaction .. => True
  | _ => False

variable {direction : Direction} {a a' : Action} {tutorial tutorial' : LiveTutorial}

theorem Moves.inPlace_iff (h : Moves direction a tutorial a' tutorial') (ha : ¬ a.IsRemoval)
    (other : LiveTutorial) : ¬ a'.IsRemoval ∧ (a'.InPlace other ↔ a.InPlace other) := by
  cases h with
  | removeStep => exact absurd trivial ha
  | unremoveStep => exact absurd trivial ha
  | removeReaction => exact absurd trivial ha
  | unremoveReaction => exact absurd trivial ha
  | _ => exact ⟨ha, Iff.rfl⟩

theorem Moves.inPlace (h : Moves .redo a tutorial a' tutorial') : a'.InPlace tutorial' := by
  rcases h.undo_of_redo with ⟨undone, hundo, hredo⟩
  exact hundo.redo_of_undo_iff.mp hredo

theorem Moves.entities_sublist (h : Moves .undo a tutorial a' tutorial') (ha : ¬ a.IsRemoval) :
    tutorial'.entities.Sublist tutorial.entities := by
  cases h with
  | setTutorial => simp
  | setStep _ field text hstep =>
      rcases LiveTutorial.steps_updateStep hstep with ⟨before, after, hsteps, hupdate⟩
      rw [hupdate]
      simp [LiveTutorial.entities, hsteps]
  | setReaction _ value hreaction =>
      rw [LiveTutorial.entities_updateReaction _ _ fun reaction => by simp]
  | unaddStep _ hplaced =>
      rcases hplaced with ⟨steps, ⟨before, after, -, hl, rfl, -⟩, rfl⟩
      simp only [LiveTutorial.entities, hl, List.flatMap_append, List.flatMap_cons]
      exact (List.sublist_append_right _ _).append_left _
  | unaddReaction _ hplaced =>
      rcases hplaced with ⟨step, reactions, hstep, ⟨earlier, later, -, hl, rfl, -⟩, rfl⟩
      rcases LiveTutorial.steps_updateStep hstep with ⟨before, after, hsteps, hupdate⟩
      rw [hupdate]
      simp only [LiveTutorial.entities, hsteps, List.flatMap_append, List.flatMap_cons]
      refine List.Sublist.append_left (List.Sublist.append_right ?_ _) _
      simp only [LiveStep.entities, hl, List.map_append, List.map_cons]
      exact ((List.sublist_cons_self _ _).append_left _).cons_cons _
  | unremoveStep => exact absurd trivial ha
  | unremoveReaction => exact absurd trivial ha

theorem entities_eq_nil (ha : ¬ a.IsRemoval) (hawaits : a.Awaits .undo) : a.entities = [] := by
  cases a with
  | addStep key index held =>
      cases held with
      | none => rfl
      | some step => cases hawaits.mp rfl
  | addReaction stepKey key index held =>
      cases held with
      | none => rfl
      | some reaction => cases hawaits.mp rfl
  | removeStep => exact absurd trivial ha
  | removeReaction => exact absurd trivial ha
  | _ => rfl

theorem isExchange_of_entities (ha : ¬ a.IsRemoval) (hawaits : a.Awaits .redo)
    (hentities : a.entities = []) : a.IsExchange := by
  cases a with
  | addStep key index held =>
      cases held with
      | none => cases hawaits.mpr rfl
      | some step => simp [entities, LiveStep.entities] at hentities
  | addReaction stepKey key index held =>
      cases held with
      | none => cases hawaits.mpr rfl
      | some reaction => simp [entities] at hentities
  | removeStep => exact absurd trivial ha
  | removeReaction => exact absurd trivial ha
  | _ => trivial

theorem Moves.isExchange_of (h : Moves direction a tutorial a' tutorial') (ha' : a'.IsExchange) :
    a.IsExchange := by
  cases h <;> exact ha'

theorem MovesAll.isExchange_of {actions actions' : List Action}
    (h : MovesAll direction actions tutorial actions' tutorial')
    (hactions' : forall a, a ∈ actions' -> a.IsExchange) :
    forall a, a ∈ actions -> a.IsExchange := by
  induction h with
  | nil tutorial => simp
  | cons hfirst hrest ih =>
      rw [List.forall_mem_cons] at hactions' ⊢
      exact ⟨hfirst.isExchange_of hactions'.1, ih hactions'.2⟩

theorem MovesAll.not_isRemoval {actions actions' : List Action}
    (h : MovesAll direction actions tutorial actions' tutorial')
    (hactions : forall a, a ∈ actions -> ¬ a.IsRemoval) :
    forall a, a ∈ actions' -> ¬ a.IsRemoval := by
  induction h with
  | nil tutorial => simp
  | cons hfirst hrest ih =>
      rw [List.forall_mem_cons] at hactions ⊢
      exact ⟨(hfirst.inPlace_iff hactions.1 tutorial).1, ih hactions.2⟩

theorem MovesAll.entities_sublist {actions actions' : List Action}
    (h : MovesAll .undo actions tutorial actions' tutorial')
    (hactions : forall a, a ∈ actions -> ¬ a.IsRemoval) :
    tutorial'.entities.Sublist tutorial.entities := by
  induction h with
  | nil tutorial => exact List.Sublist.refl _
  | cons hfirst hrest ih =>
      rw [List.forall_mem_cons] at hactions
      exact (ih hactions.2).trans (hfirst.entities_sublist hactions.1)

end Action

namespace Command

variable {tutorial tutorial' between reached : LiveTutorial}

def RemovesNothing (command : Command) : Prop :=
  Every (fun a => ¬ a.IsRemoval) command

theorem Gives.removesNothing {direction : Direction} {command command' : Command}
    (howned : Owned tutorial [command])
    (h : Gives direction command tutorial none command' tutorial')
    (hcommand : RemovesNothing command) : RemovesNothing command' := by
  unfold RemovesNothing at hcommand ⊢
  rw [← every_ordered] at hcommand ⊢
  exact (h.movesAll howned).not_isRemoval hcommand

theorem Gives.entities_sublist {command undone : Command} (howned : Owned tutorial [command])
    (h : Gives .undo command tutorial none undone tutorial')
    (hcommand : RemovesNothing command) : tutorial'.entities.Sublist tutorial.entities := by
  unfold RemovesNothing at hcommand
  rw [← every_ordered] at hcommand
  exact (h.movesAll howned).entities_sublist hcommand

theorem entities_eq_nil {command : Command} (hcommand : RemovesNothing command)
    (hawaits : Every (Action.Awaits .undo) command) : command.entities = [] := by
  rw [entities, List.flatMap_eq_nil_iff]
  exact fun a ha => Action.entities_eq_nil (hcommand a ha) (hawaits a ha)

theorem entities_of_redo {first first' first'' : Command} (howned : Owned tutorial [first])
    (hreached : Owned reached [first'])
    (hfirst : Gives .undo first tutorial none first' between)
    (hback : Gives .redo first' reached none first'' tutorial')
    (hremoves : RemovesNothing first) (hentities : tutorial'.entities = tutorial.entities) :
    reached.entities = between.entities := by
  have hremoves' := hfirst.removesNothing howned hremoves
  have hremoves'' := hback.removesNothing hreached hremoves'
  rcases (reversible hreached).swings hback with ⟨other, -, hundo⟩
  have hsublist := hundo.entities_sublist (hreached.gives hback) hremoves''
  have hsublist' := hfirst.entities_sublist howned hremoves
  -- both have been left with what the command holds now
  have hperm := hfirst.entities_perm howned
  have hperm' := hback.entities_perm hreached
  rw [entities_eq_nil hremoves (hfirst.awaits howned).1, List.append_nil] at hperm
  rw [entities_eq_nil hremoves'' (hback.awaits hreached).2, List.append_nil] at hperm'
  rw [hentities] at hsublist hperm'
  have hunique : tutorial.entities.Nodup := (List.nodup_append.mp howned.unique).1
  rw [← hunique.perm_iff_eq_of_sublist hsublist hsublist',
    ← List.perm_append_right_iff first'.entities]
  exact hperm'.symm.trans hperm.symm

theorem inPlace_all_of_entities {depth : Nat} {members undone members' : List Command}
    (hplace : forall command, height command <= depth ->
      forall {tutorial tutorial' between undone command'}, Owned tutorial [command] ->
      RemovesNothing command -> Gives .undo command tutorial none undone between ->
      Gives .redo undone between none command' tutorial' ->
      tutorial'.entities = tutorial.entities -> InPlace command tutorial)
    (hdepth : heightAll members <= depth) (howned : Owned tutorial members)
    (hremoves : forall member, member ∈ members -> RemovesNothing member)
    (h : GivesAll .undo members tutorial none undone between)
    (hback : GivesAll .redo undone.reverse between none members' tutorial')
    (hentities : tutorial'.entities = tutorial.entities) : InPlaceAll members tutorial := by
  induction members generalizing tutorial tutorial' undone members' with
  | nil => exact .nil _
  | cons first rest ih =>
      rcases givesAll_cons_none_iff.mp h with ⟨first', left, rest', hfirst, hrest, rfl⟩
      simp only [heightAll] at hdepth
      rw [List.forall_mem_cons] at hremoves
      rw [List.reverse_cons] at hback
      rcases givesAll_append_none_iff.mp hback with
        ⟨restAgain, reached, firstAgain, hrestBack, hfirstBack, rfl⟩
      rcases givesAll_cons_none_iff.mp hfirstBack with
        ⟨first'', last, nothing, hfirstBack, hnil, rfl⟩
      rcases givesAll_nil_iff.mp hnil with ⟨-, -, rfl⟩
      have hleft := howned.gives hfirst
      have hreached : Owned reached [first'] := by
        have hreverse : (first' :: rest'.reverse).Perm (first' :: rest') :=
          (List.reverse_perm rest').cons first'
        exact (((hleft.givesRest hrest).perm hreverse).givesRest hrestBack).head
      have heq := entities_of_redo howned.head hreached hfirst hfirstBack hremoves.1 hentities
      have hrestPlace := ih (by omega) hleft.tail hremoves.2 hrest hrestBack heq
      have hrestExact := (redo_of_undo_all_iff
        (fun command _ {_ _ _} howned h => redo_of_undo_iff howned h) (Nat.le_refl _) hleft.tail
        hrest).mpr hrestPlace
      rcases hrestBack.unique hrestExact with ⟨-, -, rfl⟩
      rw [inPlaceAll_cons_of_gives hfirst]
      exact ⟨hplace first (by omega) howned.head hremoves.1 hfirst hfirstBack hentities, hrestPlace⟩

theorem inPlace_of_entities {command undone command' : Command} (howned : Owned tutorial [command])
    (hremoves : RemovesNothing command)
    (h : Gives .undo command tutorial none undone between)
    (hback : Gives .redo undone between none command' tutorial')
    (hentities : tutorial'.entities = tutorial.entities) : InPlace command tutorial := by
  induction command generalizing undone command' tutorial between tutorial' with
  | action a =>
      have hbetween := howned.gives h
      rcases moves_of_gives howned h with ⟨b, hmoves, rfl⟩
      rcases moves_of_gives hbetween hback with ⟨a', hmoves', rfl⟩
      have hb := hmoves.inPlace_iff (every_action.mp hremoves) tutorial
      have ha' := hmoves'.inPlace_iff hb.1 tutorial
      exact .action (hb.2.mp (ha'.2.mp (Action.inPlace_congr hentities hmoves'.inPlace)))
  | group label members ih =>
      rcases gives_group_iff.mp h with ⟨undone', hundone, rfl⟩
      rcases gives_group_iff.mp hback with ⟨members', hmembers, -⟩
      have hreverse : Owned tutorial members.reverse :=
        (Owned.group_iff.mp howned).perm (List.reverse_perm members)
      unfold RemovesNothing at hremoves
      rw [every_group] at hremoves
      rw [inPlace_group_iff]
      exact inPlace_all_of_entities ih (heightAll_ordered_le .undo members) hreverse
        (fun member hmember => hremoves member (List.mem_reverse.mp hmember)) hundone hmembers
        hentities

/-!
# Undoing that fails

If a command removes nothing, the arrangements before and after tell whether all was in place.
-/

theorem redo_passes_of_entities {command undone : Command} (howned : Owned tutorial [command])
    (hremoves : RemovesNothing command) (h : Gives .undo command tutorial none undone between)
    (hreached : Owned reached [undone]) (hentities : reached.entities = tutorial.entities) :
    exists command' tutorial', Gives .redo undone reached none command' tutorial' := by
  have hawaits := h.awaits howned
  have hperm := h.entities_perm howned
  rw [entities_eq_nil hremoves hawaits.1, List.append_nil] at hperm
  have hnothing : undone.actions.flatMap Action.entities = [] := by
    rw [List.eq_nil_iff_forall_not_mem]
    intro entity hentity
    have hthere : entity ∈ reached.entities := by
      rw [hentities]
      exact hperm.mem_iff.mp (List.mem_append_right _ hentity)
    have hunique := hreached.unique
    rw [List.flatMap_singleton] at hunique
    exact (List.nodup_append.mp hunique).2.2 entity hthere entity hentity rfl
  rw [List.flatMap_eq_nil_iff] at hnothing
  have hundone : Every Action.IsExchange undone := fun a ha =>
    Action.isExchange_of_entities (h.removesNothing howned hremoves a ha) (hawaits.2 a ha)
      (hnothing a ha)
  have hcommand : Every Action.IsExchange command := by
    rw [← every_ordered] at hundone ⊢
    exact (h.movesAll howned).isExchange_of hundone
  exact redo_passes_of_exchange howned h hcommand (by rw [hentities])

theorem inPlace_all_of_fault {depth : Nat} {members members' : List Command} {fault : Fault}
    (hplace : forall command, height command <= depth ->
      forall {tutorial tutorial' command' fault}, Owned tutorial [command] ->
      RemovesNothing command -> Gives .undo command tutorial (some fault) command' tutorial' ->
      tutorial'.entities = tutorial.entities -> InPlace command tutorial)
    (hdepth : heightAll members <= depth) (howned : Owned tutorial members)
    (hremoves : forall member, member ∈ members -> RemovesNothing member)
    (h : GivesAll .undo members tutorial (some fault) members' tutorial')
    (hentities : tutorial'.entities = tutorial.entities) : InPlaceAll members tutorial := by
  induction members generalizing tutorial tutorial' members' with
  | nil => exact .nil _
  | cons first rest ih =>
      simp only [heightAll] at hdepth
      rw [List.forall_mem_cons] at hremoves
      rcases givesAll_cons_some_iff.mp h with ⟨first', hfirst, rfl⟩ |
        ⟨first', between, rest', reached, fault', first'', hfirst, hrest, hback, rfl⟩
      · refine .cons (hplace first (by omega) howned.head hremoves.1 hfirst hentities) ?_
        intro undone between hother
        cases (hfirst.unique hother).1
      · have hbetween := howned.gives hfirst
        have hreached := (hbetween.givesRest hrest).head
        cases fault' with
        | none =>
            have heq := entities_of_redo howned.head hreached hfirst hback hremoves.1 hentities
            have hrestPlace := ih (by omega) hbetween.tail hremoves.2 hrest heq
            have hrestExact := (unchanged_all_iff
              (fun command _ {_ _ _ _} howned h => unchanged_iff howned h) (Nat.le_refl _)
              hbetween.tail hrest).mpr hrestPlace
            rcases hrestExact with ⟨rfl, rfl⟩
            rw [inPlaceAll_cons_of_gives hfirst]
            exact ⟨inPlace_of_entities howned.head hremoves.1 hfirst hback hentities, hrestPlace⟩
        | some fault' =>
            have heq := (reversible hreached).atomic hback
            rw [heq] at hentities
            rcases redo_passes_of_entities howned.head hremoves.1 hfirst hreached hentities
              with ⟨command', tutorial'', hpasses⟩
            cases (hback.unique hpasses).1

theorem inPlace_of_fault {command command' : Command} {fault : Fault}
    (howned : Owned tutorial [command]) (hremoves : RemovesNothing command)
    (h : Gives .undo command tutorial (some fault) command' tutorial')
    (hentities : tutorial'.entities = tutorial.entities) : InPlace command tutorial := by
  induction command generalizing tutorial tutorial' command' fault with
  | action a =>
      exact .action (Action.inPlace_of_undo_error (gives_action_some_iff.mp h).1)
  | group label members ih =>
      rcases gives_group_iff.mp h with ⟨members', hmembers, -⟩
      have hreverse : Owned tutorial members.reverse :=
        (Owned.group_iff.mp howned).perm (List.reverse_perm members)
      unfold RemovesNothing at hremoves
      rw [every_group] at hremoves
      rw [inPlace_group_iff]
      exact inPlace_all_of_fault ih (heightAll_ordered_le .undo members) hreverse
        (fun member hmember => hremoves member (List.mem_reverse.mp hmember)) hmembers hentities

/--
An undoing that fails leaves the tutorial and the command as they were exactly if all that it takes
out stands where it is put again.  If the command removes nothing, the tutorial alone tells.
-/
theorem failing_undo_unchanged_iff {command : Command} (howned : Owned tutorial [command])
    (hfault : (command.run .undo tutorial).fault ≠ none) :
    ((command.run .undo tutorial).tutorial = tutorial ∧
        (command.run .undo tutorial).command = command ↔ InPlace command tutorial) ∧
      (RemovesNothing command ->
        ((command.run .undo tutorial).tutorial = tutorial ↔ InPlace command tutorial)) := by
  have hgives := gives_run .undo command tutorial
  rcases Option.ne_none_iff_exists'.mp hfault with ⟨fault, hsome⟩
  rw [hsome] at hgives
  have hiff := unchanged_iff howned hgives
  refine ⟨hiff, fun hremoves => ⟨?_, fun hplace => (hiff.mpr hplace).1⟩⟩
  intro htutorial
  exact inPlace_of_fault howned hremoves hgives (by rw [htutorial])

/-- A group has added two steps, and the first has been removed by others. -/
theorem failing_undo_unchanged_in_place :
    let step : String -> LiveStep := fun name => ⟨⟨name⟩, name, "", "", "", []⟩
    let tutorial : LiveTutorial := ⟨"t", "", "", "", "", [step "b"]⟩
    let command := group "" [action (.addStep ⟨"a"⟩ none none), action (.addStep ⟨"b"⟩ none none)]
    Owned tutorial [command] ∧ (command.run .undo tutorial).fault ≠ none ∧
      RemovesNothing command ∧ InPlace command tutorial ∧
      (command.run .undo tutorial).tutorial = tutorial := by
  intro step tutorial command
  have howned : Owned tutorial [command] := by
    refine ⟨?_, by decide⟩
    simp [command, Action.Keyed]
  have hfault : (command.run .undo tutorial).fault ≠ none := by decide
  have hremoves : RemovesNothing command := by
    simp [RemovesNothing, command, Action.IsRemoval]
  have hiff := (failing_undo_unchanged_iff howned hfault).2 hremoves
  have htutorial : (command.run .undo tutorial).tutorial = tutorial := rfl
  exact ⟨howned, hfault, hremoves, hiff.mp htutorial, htutorial⟩

/-- The same group, when a third step has been put behind the second one. -/
theorem failing_undo_moves_step :
    let step : String -> LiveStep := fun name => ⟨⟨name⟩, name, "", "", "", []⟩
    let tutorial : List LiveStep -> LiveTutorial := fun steps => ⟨"t", "", "", "", "", steps⟩
    let undone := group "" [action (.addStep ⟨"a"⟩ none (some (step "a"))),
      action (.addStep ⟨"b"⟩ none (some (step "b")))]
    let applied := (undone.run .redo (tutorial [])).command
    let edited := tutorial [step "b", step "c"]
    (undone.run .redo (tutorial [])).fault = none ∧
      (undone.run .redo (tutorial [])).tutorial = tutorial [step "a", step "b"] ∧
      Owned edited [applied] ∧
      (applied.run .undo edited).fault = some (.refused (.stepNotFound ⟨"a"⟩)) ∧
      (applied.run .undo edited).tutorial = tutorial [step "c", step "b"] ∧
      (applied.run .undo edited).tutorial ≠ edited := by
  intro step tutorial undone applied edited
  have happlied : applied = group ""
      [action (.addStep ⟨"a"⟩ none none), action (.addStep ⟨"b"⟩ none none)] := rfl
  have hmoved : (applied.run .undo edited).tutorial = tutorial [step "c", step "b"] := rfl
  refine ⟨rfl, rfl, ⟨?_, by decide⟩, rfl, hmoved, ?_⟩
  · rw [happlied]
    simp [Action.Keyed]
  · rw [hmoved]
    intro heq
    exact absurd (congrArg (fun tutorial => tutorial.steps.map LiveStep.key) heq) (by decide)

end Command
end TutorialKit
