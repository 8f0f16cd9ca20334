import TutorialKit.Editing.Workbench
import TutorialKit.Proofs.Editing.Reports

/-!
# Requests on a workbench

What lies on a workbench is in its tutorial, beside it, or held by a command of its history or by
one that has been prepared.  Every request edits this stock, and tells the listeners of its edits.
-/

namespace TutorialKit

/-!
# What lies on a workbench

What has been taken from a bench is counted as long as it is not lost.
-/

namespace Workbench

def items (bench : Workbench) : List Item :=
  bench.history.items ++ (bench.looseSteps.map .step ++ (bench.looseReactions.map .reaction ++
    bench.prepared.flatMap fun entry => entry.2.items))

def stock (bench : Workbench) (taken : List Item) : Stock :=
  bench.tutorial.stock (taken ++ bench.items)

end Workbench

/-!
# Finding what lies on a workbench

A step or a reaction is looked for in the tutorial and beside it, and is changed wherever it is
found.  As keys are unique, it is found in one place only.
-/

theorem perm_append_of_cons {α : Type} {a : α} {items rest : List α} (front : List α)
    (h : items.Perm (a :: rest)) : (front ++ items).Perm (a :: (front ++ rest)) :=
  (h.append_left front).trans List.perm_middle

theorem perm_loose_step (steps taken held others : List Item) (before after : List LiveStep)
    (step : LiveStep) :
    (steps ++ (taken ++ (held ++ ((before ++ step :: after).map Item.step ++ others)))).Perm
      (.step step ::
        (taken ++ (steps ++ (held ++ ((before ++ after).map Item.step ++ others))))) := by
  have hloose : ((before ++ step :: after).map Item.step ++ others).Perm
      (.step step :: ((before ++ after).map Item.step ++ others)) :=
    perm_step_middle before after step [] others
  have hsteps := perm_append_of_cons steps (perm_append_of_cons held hloose)
  exact (List.perm_append_comm_assoc _ _ _).trans (perm_append_of_cons taken hsteps)

theorem perm_loose_reaction (steps held loose others : List Item)
    (before after : List LiveReaction) (reaction : LiveReaction) :
    (steps ++ (held ++
      (loose ++ ((before ++ reaction :: after).map Item.reaction ++ others)))).Perm
      (.reaction reaction ::
        (steps ++ (held ++ (loose ++ ((before ++ after).map Item.reaction ++ others))))) := by
  have hreactions : ((before ++ reaction :: after).map Item.reaction ++ others).Perm
      (.reaction reaction :: ((before ++ after).map Item.reaction ++ others)) := by
    rw [List.map_append, List.map_cons, List.map_append]
    exact List.perm_middle.append_right others
  have hloose := perm_append_of_cons loose hreactions
  exact perm_append_of_cons steps (perm_append_of_cons held hloose)

namespace LiveTutorial

variable {tutorial : LiveTutorial}

theorem updateStep_of_absent {key : StepKey} (f : LiveStep -> LiveStep)
    (h : tutorial.step? key = none) : tutorial.updateStep key f = tutorial := by
  rw [updateStep, replaceFirst_of_absent f]
  exact fun other hother => by simpa using List.find?_eq_none.mp h other hother

theorem updateReaction_of_absent {key : ReactionKey} (f : LiveReaction -> LiveReaction)
    (h : tutorial.reaction? key = none) : tutorial.updateReaction key f = tutorial := by
  rw [updateReaction, replaceFirst_of_absent]
  exact fun other hother =>
    hasReaction_of_reaction?_none (List.findSome?_eq_none_iff.mp h other hother)

theorem mem_of_reaction? {key : ReactionKey} {reaction : LiveReaction}
    (h : tutorial.reaction? key = some reaction) :
    reaction ∈ tutorial.steps.flatMap LiveStep.reactions := by
  rcases List.exists_of_findSome?_eq_some h with ⟨step, hstep, hreaction⟩
  exact List.mem_flatMap.mpr ⟨step, hstep, List.mem_of_find?_eq_some hreaction⟩

end LiveTutorial

namespace Workbench

variable {inPlace : Bool} {bench : Workbench} {changes : List Change}

theorem key_of_step? {key : StepKey} {step : LiveStep} (h : bench.step? key = some step) :
    step.key = key := by
  rcases Option.or_eq_some_iff.mp h with h | ⟨-, h⟩
  · exact LiveTutorial.key_of_step? h
  · simpa using List.find?_some h

theorem key_of_reaction? {key : ReactionKey} {reaction : LiveReaction}
    (h : bench.reaction? key = some reaction) : reaction.key = key := by
  rcases Option.or_eq_some_iff.mp h with h | ⟨-, h⟩
  · exact LiveTutorial.key_of_reaction? h
  · rcases Option.or_eq_some_iff.mp h with h | ⟨-, h⟩
    · simpa using List.find?_some h
    · rcases List.exists_of_findSome?_eq_some h with ⟨step, -, hreaction⟩
      simpa using List.find?_some hreaction

theorem edits_of_amends {key : StepKey} {step : LiveStep} {f : LiveStep -> LiveStep}
    {taken given : List Item} (hunique : (bench.stock taken).Unique)
    (hfound : bench.step? key = some step)
    (h : Amends inPlace step taken changes (f step) given) :
    Edits inPlace (bench.stock taken) changes ((bench.updateStep key f).stock given) := by
  rcases Option.or_eq_some_iff.mp hfound with htutorial | ⟨htutorial, hbeside⟩
  · have habsent : forall other, other ∈ bench.looseSteps -> (other.key == key) = false := by
      intro other hother
      have hfront : Item.step step ∈ bench.tutorial.steps.map Item.step :=
        List.mem_map.mpr ⟨step, LiveTutorial.mem_of_step? htutorial, rfl⟩
      have hback : Item.step other ∈ taken ++ bench.items := by simp [items, hother]
      have hapart := hunique.step_apart hfront hback
      rw [LiveTutorial.key_of_step? htutorial] at hapart
      exact beq_eq_false_iff_ne.mpr hapart
    rw [updateStep, replaceFirst_of_absent f habsent]
    exact h.inTutorial htutorial _
  · rcases find?_split (show bench.looseSteps.find? _ = some step from hbeside) with
      ⟨before, after, hloose, hkey, hbefore⟩
    rw [updateStep, LiveTutorial.updateStep_of_absent f htutorial, hloose,
      replaceFirst_append f (p := fun step => step.key == key) hkey hbefore]
    unfold stock items
    rw [hloose]
    exact .between (perm_loose_step ..) (h.edits _ _ _) (perm_loose_step ..).symm

theorem replaceFirst_hasReaction {steps : List LiveStep} {key : ReactionKey}
    (f : LiveReaction -> LiveReaction)
    (h : forall other, other ∈ steps.flatMap LiveStep.reactions -> other.key ≠ key) :
    replaceFirst (fun step => step.hasReaction key) (fun step => step.updateReaction key f)
      steps = steps := by
  refine replaceFirst_of_absent _ fun step hstep => List.any_eq_false.mpr fun other hother => ?_
  simpa using h other (List.mem_flatMap.mpr ⟨step, hstep, hother⟩)

theorem reactions_stock (bench : Workbench) (taken : List Item) :
    (bench.stock taken).reactions = bench.tutorial.steps.flatMap LiveStep.reactions ++
      (taken.flatMap Item.reactions ++ (bench.history.items.flatMap Item.reactions ++
        (bench.looseSteps.flatMap LiveStep.reactions ++ (bench.looseReactions ++
          (bench.prepared.flatMap fun entry => entry.2.items).flatMap Item.reactions)))) := by
  have hreactions : (bench.looseReactions.map Item.reaction).flatMap Item.reactions =
      bench.looseReactions := by
    rw [List.flatMap_map]
    exact List.flatMap_singleton' _
  simp only [stock, LiveTutorial.stock, Stock.of, items, List.flatMap_append, hreactions]
  rw [List.flatMap_map, List.flatMap_map]
  rfl

section

variable {key : ReactionKey} {reaction : LiveReaction} {f : LiveReaction -> LiveReaction}

/-- The update of a reaction goes through the tutorial, loose reactions and loose steps.  Beside
the tutorial it changes nothing if the reaction is in there, as no other has its key. -/
theorem edits_of_revises_inTutorial (hunique : (bench.stock []).Unique)
    (htutorial : bench.tutorial.reaction? key = some reaction)
    (h : Revises inPlace reaction changes (f reaction)) :
    Edits inPlace (bench.stock []) changes ((bench.updateReaction key f).stock []) := by
  have hapart : forall other, other ∈ bench.looseSteps.flatMap LiveStep.reactions ∨
      other ∈ bench.looseReactions -> other.key ≠ key := by
    intro other hother
    rw [← LiveTutorial.key_of_reaction? htutorial]
    apply hunique.reaction_apart (reactions_stock bench [])
      (LiveTutorial.mem_of_reaction? htutorial)
    simp only [List.mem_append]
    tauto
  rw [updateReaction, replaceFirst_hasReaction f fun other hother => hapart other (.inl hother),
    replaceFirst_of_absent f fun other hother => by simpa using hapart other (.inr hother)]
  exact h.inTutorial htutorial _

theorem edits_of_revises_loose (hunique : (bench.stock []).Unique)
    (htutorial : bench.tutorial.reaction? key = none)
    (hloose : bench.looseReaction? key = some reaction)
    (h : Revises inPlace reaction changes (f reaction)) :
    Edits inPlace (bench.stock []) changes ((bench.updateReaction key f).stock []) := by
  have hreaction : reaction ∈ bench.looseReactions := List.mem_of_find?_eq_some hloose
  rcases find?_split (show bench.looseReactions.find? _ = some reaction from hloose) with
    ⟨before, after, hreactions, hkey, hbefore⟩
  have hapart : forall other, other ∈ bench.looseSteps.flatMap LiveStep.reactions ->
      other.key ≠ key := by
    intro other hother hsame
    have hall := reactions_stock bench []
    rw [← List.append_assoc, ← List.append_assoc, ← List.append_assoc] at hall
    apply hunique.reaction_apart hall (List.mem_append_right _ hother)
      (List.mem_append_left _ hreaction)
    rw [hsame]
    exact eq_of_beq hkey
  rw [updateReaction, LiveTutorial.updateReaction_of_absent f htutorial,
    replaceFirst_hasReaction f hapart, hreactions,
    replaceFirst_append f (p := fun reaction => reaction.key == key) hkey hbefore]
  unfold stock items
  rw [hreactions]
  exact .between (perm_loose_reaction ..) (h.alone _ _ _) (perm_loose_reaction ..).symm

theorem edits_of_revises_inLooseStep (htutorial : bench.tutorial.reaction? key = none)
    (hloose : bench.looseReaction? key = none)
    (hfound : bench.looseSteps.findSome? (fun step => step.reaction? key) = some reaction)
    (h : Revises inPlace reaction changes (f reaction)) :
    Edits inPlace (bench.stock []) changes ((bench.updateReaction key f).stock []) := by
  rcases List.findSome?_eq_some_iff.mp hfound with ⟨before, step, after, hsteps, hstep, hbefore⟩
  have habsent : forall other, other ∈ bench.looseReactions -> (other.key == key) = false :=
    fun other hother => by simpa using List.find?_eq_none.mp hloose other hother
  have hearlier : forall other, other ∈ before -> other.hasReaction key = false :=
    fun other hother => LiveTutorial.hasReaction_of_reaction?_none (hbefore other hother)
  rw [updateReaction, LiveTutorial.updateReaction_of_absent f htutorial,
    replaceFirst_of_absent f habsent, hsteps,
    replaceFirst_append _ (p := fun step => LiveStep.hasReaction key step)
      (LiveTutorial.hasReaction_of_reaction? hstep) hearlier]
  unfold stock items
  rw [hsteps]
  exact .between (perm_loose_step _ [] ..) ((Amends.ofReaction hstep h).edits _ _ _)
    (perm_loose_step _ [] ..).symm

theorem edits_of_revises (hunique : (bench.stock []).Unique)
    (hfound : bench.reaction? key = some reaction)
    (h : Revises inPlace reaction changes (f reaction)) :
    Edits inPlace (bench.stock []) changes ((bench.updateReaction key f).stock []) := by
  rcases Option.or_eq_some_iff.mp hfound with htutorial | ⟨htutorial, hbeside⟩
  · exact edits_of_revises_inTutorial hunique htutorial h
  · rcases Option.or_eq_some_iff.mp hbeside with hloose | ⟨hloose, hstep⟩
    · exact edits_of_revises_loose hunique htutorial hloose h
    · exact edits_of_revises_inLooseStep htutorial hloose hstep h

end

/-!
# What a request keeps

What is the same on the bench after a request, whatever is edited.
-/

structure Keeps (bench bench' : Workbench) : Prop where
  watchers : bench'.watchers = bench.watchers
  knownSteps : bench'.knownSteps = bench.knownSteps
  knownReactions : bench'.knownReactions = bench.knownReactions
  names : (bench.prepared.map Prod.fst).Nodup -> (bench'.prepared.map Prod.fst).Nodup

theorem Keeps.refl (bench : Workbench) : bench.Keeps bench :=
  ⟨rfl, rfl, rfl, id⟩

theorem Keeps.trans {bench between bench' : Workbench} (h : bench.Keeps between)
    (h' : between.Keeps bench') : bench.Keeps bench' where
  watchers := h'.watchers.trans h.watchers
  knownSteps := h'.knownSteps.trans h.knownSteps
  knownReactions := h'.knownReactions.trans h.knownReactions
  names := h'.names ∘ h.names

/-!
# Taking things from a workbench

A command takes from the bench what it is to hold.  If it cannot be built, that is lost.
-/

/-- Items are taken from the bench; others may be lost with them. -/
structure Yields (bench bench' : Workbench) (given : List Item) : Prop where
  keeps : bench.Keeps bench'
  tutorial : bench'.tutorial = bench.tutorial
  items : exists lost, bench.items.Perm (given ++ (bench'.items ++ lost))

theorem perm_of_dropped {α : Type} {p : α -> Bool} {l : List α} {a : α} (hmem : a ∈ l)
    (ha : p a = false) : exists lost, l.Perm (a :: (l.filter p ++ lost)) := by
  have hlost : a ∈ l.filter fun b => !p b := List.mem_filter.mpr ⟨hmem, by simp [ha]⟩
  rcases List.append_of_mem hlost with ⟨before, after, hsplit⟩
  refine ⟨before ++ after, ?_⟩
  have hperm := (List.filter_append_perm p l).symm
  rw [hsplit] at hperm
  refine hperm.trans ?_
  rw [← List.append_assoc, ← List.append_assoc]
  exact List.perm_middle

namespace Yields

variable {bench between bench' : Workbench} {given more : List Item} {inPlace : Bool}

theorem refl (bench : Workbench) : bench.Yields bench [] :=
  ⟨.refl bench, rfl, [], by simp⟩

theorem trans (h : bench.Yields between given) (h' : between.Yields bench' more) :
    bench.Yields bench' (given ++ more) := by
  rcases h.items with ⟨lost, hitems⟩
  rcases h'.items with ⟨lost', hitems'⟩
  refine ⟨h.keeps.trans h'.keeps, h'.tutorial.trans h.tutorial, lost' ++ lost, ?_⟩
  refine hitems.trans ?_
  rw [List.append_assoc]
  refine List.Perm.append_left given ?_
  rw [← List.append_assoc, ← List.append_assoc]
  rw [← List.append_assoc] at hitems'
  exact hitems'.append_right lost

theorem edits (h : bench.Yields bench' given) :
    Edits inPlace (bench.stock []) [] (bench'.stock given) := by
  rcases h.items with ⟨lost, hitems⟩
  unfold stock
  rw [h.tutorial]
  refine (Edits.refl _).losing lost ?_
  rw [List.append_assoc]
  exact hitems

theorem lose (h : bench.Yields bench' given) : bench.Yields bench' [] := by
  rcases h.items with ⟨lost, hitems⟩
  refine ⟨h.keeps, h.tutorial, lost ++ given, hitems.trans ?_⟩
  rw [List.nil_append, ← List.append_assoc bench'.items]
  exact List.perm_append_comm

end Yields

theorem yields_dropStep {bench : Workbench} {key : StepKey} {step : LiveStep}
    (h : bench.looseStep? key = some step) : bench.Yields (bench.dropStep key) [.step step] := by
  have hkey := List.find?_some h
  rcases perm_of_dropped (p := fun step => step.key != key) (List.mem_of_find?_eq_some h)
    (by simpa using hkey) with ⟨lost, hperm⟩
  refine ⟨⟨rfl, rfl, rfl, id⟩, rfl, lost.map .step, ?_⟩
  classical
  refine List.perm_iff_count.mpr fun item => ?_
  have hcount := (hperm.map Item.step).count_eq item
  simp only [items, dropStep, List.map_cons, List.map_append, List.count_append,
    List.count_cons, List.count_nil] at hcount ⊢
  omega

theorem yields_dropReaction {bench : Workbench} {key : ReactionKey} {reaction : LiveReaction}
    (h : bench.looseReaction? key = some reaction) :
    bench.Yields (bench.dropReaction key) [.reaction reaction] := by
  have hkey := List.find?_some h
  rcases perm_of_dropped (p := fun reaction => reaction.key != key) (List.mem_of_find?_eq_some h)
    (by simpa using hkey) with ⟨lost, hperm⟩
  refine ⟨⟨rfl, rfl, rfl, id⟩, rfl, lost.map .reaction, ?_⟩
  classical
  refine List.perm_iff_count.mpr fun item => ?_
  have hcount := (hperm.map Item.reaction).count_eq item
  simp only [items, dropReaction, List.map_cons, List.map_append, List.count_append,
    List.count_cons, List.count_nil] at hcount ⊢
  omega

theorem yields_dropPrepared {bench : Workbench} {name : String} {command : Command}
    (h : bench.prepared.lookup name = some command) :
    bench.Yields
      { bench with prepared := bench.prepared.filter fun entry => entry.1 != name }
      command.items := by
  rcases List.lookup_eq_some_iff.mp h with ⟨before, after, hprepared, -⟩
  have hmem : (name, command) ∈ bench.prepared := by simp [hprepared]
  rcases perm_of_dropped (p := fun entry => entry.1 != name) hmem (by simp) with ⟨lost, hperm⟩
  refine ⟨⟨rfl, rfl, rfl, fun hnames => hnames.sublist (List.filter_sublist.map _)⟩, rfl,
    lost.flatMap fun entry => entry.2.items, ?_⟩
  classical
  refine List.perm_iff_count.mpr fun item => ?_
  have hcount := (hperm.flatMap_right fun entry => entry.2.items).count_eq item
  simp only [items, List.flatMap_cons, List.flatMap_append, List.count_append] at hcount ⊢
  omega

theorem items_of_groupCommand? {label : Option String} {members : List Command}
    {command : Command} (h : groupCommand? label members = some command) :
    command.items = members.flatMap Command.items := by
  cases label with
  | none =>
      cases h
      exact Command.items_group ..
  | some label => exact Command.items_of_finish? h

theorem yields_action {bench : Workbench} (known : Bool) {a : Action} (ha : a.items = []) :
    bench.Yields bench
      ((if known then some (Command.action a) else none).elim [] Command.items) := by
  cases known with
  | true =>
      simp only [if_true, Option.elim, Command.items_action, ha]
      exact .refl bench
  | false => exact .refl bench

mutual

theorem yields_build (bench : Workbench) (order : Order) :
    bench.Yields (build bench order).1 ((build bench order).2.elim [] Command.items) := by
  cases order with
  | setTutorial field text => exact yields_action true rfl
  | setStep key field text => exact yields_action (bench.knowsStep key) rfl
  | setReaction key value => exact yields_action (bench.knowsReaction key) rfl
  | removeStep key => exact yields_action (bench.knowsStep key) rfl
  | removeReaction step key => exact yields_action _ rfl
  | addStep key index =>
      rw [build]
      cases hloose : bench.looseStep? key with
      | none => exact .refl bench
      | some step =>
          simp only [Option.elim, Command.items_action]
          exact yields_dropStep hloose
  | addReaction step key index =>
      rw [build]
      split
      · cases hloose : bench.looseReaction? key with
        | none => exact .refl bench
        | some reaction =>
            simp only [Option.elim, Command.items_action]
            exact yields_dropReaction hloose
      · exact .refl bench
  | group members label =>
      have hmembers := yields_buildAll bench members
      rw [build]
      generalize buildAll bench members = built at hmembers ⊢
      rcases built with ⟨bench', made⟩
      cases made with
      | none => exact hmembers
      | some commands =>
          simp only
          cases hgroup : groupCommand? label commands with
          | none => exact hmembers.lose
          | some command =>
              simp only [Option.elim, items_of_groupCommand? hgroup]
              exact hmembers
  | prepared name =>
      rw [build]
      cases hlookup : bench.prepared.lookup name with
      | none => exact .refl bench
      | some command => exact yields_dropPrepared hlookup

theorem yields_buildAll (bench : Workbench) (orders : List Order) :
    bench.Yields (buildAll bench orders).1
      ((buildAll bench orders).2.elim [] fun commands => commands.flatMap Command.items) := by
  cases orders with
  | nil => exact .refl bench
  | cons order rest =>
      have hfirst := yields_build bench order
      rw [buildAll]
      generalize build bench order = built at hfirst ⊢
      rcases built with ⟨between, made⟩
      cases made with
      | none => exact hfirst
      | some command =>
          have hrest := yields_buildAll between rest
          simp only
          generalize buildAll between rest = later at hrest ⊢
          rcases later with ⟨bench', made⟩
          cases made with
          | none => exact (hfirst.trans hrest).lose
          | some commands => exact hfirst.trans hrest

end

/-!
# Reports

A request is told to the listeners of what it edits, and conditions have listeners of their own.
-/

def documents (notices : List (Label × Notice)) : List (Label × Change) :=
  notices.filterMap fun notice =>
    match notice.2 with
    | .document change => some (notice.1, change)
    | .condition _ => none

theorem documents_condition (notices : List (Label × ConditionChange)) :
    documents (notices.map fun notice => (notice.1, .condition notice.2)) = [] := by
  rw [documents, List.filterMap_map, List.filterMap_eq_nil_iff]
  exact fun notice _ => rfl

/-- The bench after edits that its listeners have been told of. -/
structure Reported (inPlace : Bool) (bench : Workbench) (notices : List (Label × Notice))
    (bench' : Workbench) : Prop where
  keeps : bench.Keeps bench'
  edits : exists changes, Edits inPlace (bench.stock []) changes (bench'.stock []) ∧
    documents notices = bench.watchers.deliver changes

namespace Reported

variable {inPlace : Bool} {bench bench' : Workbench} {changes : List Change}

theorem of_edits (hkeeps : bench.Keeps bench')
    (h : Edits inPlace (bench.stock []) changes (bench'.stock [])) :
    Reported inPlace bench (bench'.documentNotices changes) bench' := by
  refine ⟨hkeeps, changes, h, ?_⟩
  rw [documentNotices, documents, List.filterMap_map, hkeeps.watchers]
  exact List.filterMap_some

theorem of_yields {given : List Item} (h : bench.Yields bench' given) :
    Reported inPlace bench [] bench' :=
  ⟨h.keeps, [], h.lose.edits, rfl⟩

theorem silent (inPlace : Bool) (bench : Workbench) : Reported inPlace bench [] bench :=
  of_yields (.refl bench)

end Reported

section

variable {inPlace : Bool} {bench : Workbench}

theorem reported_insertStep (key : StepKey) (index : Option Nat) :
    Reported inPlace bench (bench.insertStep key index).notices
      (bench.insertStep key index).bench := by
  unfold insertStep
  cases hloose : bench.looseStep? key with
  | none => exact .silent inPlace bench
  | some step =>
      have hkey : step.key = key := by simpa using List.find?_some hloose
      have hyields := yields_dropStep hloose
      simp only
      split
      · exact .of_yields hyields
      · next tutorial hinsert =>
          have hinserted : Edits inPlace _ _ _ := .step_inserted hinsert (bench.dropStep key).items
          rw [hkey] at hinserted
          exact .of_edits ⟨rfl, rfl, rfl, id⟩ (hyields.edits.trans hinserted)

theorem reported_removeStep (key : StepKey) :
    Reported inPlace bench (bench.removeStep key).notices (bench.removeStep key).bench := by
  unfold removeStep
  split
  · split
    · exact .silent inPlace bench
    · next step tutorial hremove =>
        have hremoved : Edits inPlace _ _ _ := .step_removed hremove bench.items
        exact .of_edits ⟨rfl, rfl, rfl, id⟩ (hremoved.beside (.refl _) List.perm_middle.symm)
  · exact .silent inPlace bench

theorem reported_insertReaction (hunique : (bench.stock []).Unique) (stepKey : StepKey)
    (key : ReactionKey) (index : Option Nat) :
    Reported inPlace bench (bench.insertReaction stepKey key index).notices
      (bench.insertReaction stepKey key index).bench := by
  unfold insertReaction
  split
  · next step reaction hstep hloose =>
      have hkey : reaction.key = key := by simpa using List.find?_some hloose
      have hyields := yields_dropReaction hloose
      simp only
      split
      · exact .of_yields hyields
      · next changed hinsert =>
          have hadded : Amends inPlace step _ _ changed [] := .reactionAdded hinsert
          rw [hkey, key_of_step? hstep] at hadded
          have hdropped : Edits inPlace (bench.stock []) [] _ := hyields.edits
          have hedits := edits_of_amends (f := fun _ => changed) (hdropped.unique hunique) hstep
            hadded
          exact .of_edits ⟨rfl, rfl, rfl, id⟩ (hdropped.trans hedits)
  · exact .silent inPlace bench

theorem reported_removeReaction (hunique : (bench.stock []).Unique) (stepKey : StepKey)
    (key : ReactionKey) :
    Reported inPlace bench (bench.removeReaction stepKey key).notices
      (bench.removeReaction stepKey key).bench := by
  unfold removeReaction
  cases hstep : bench.step? stepKey with
  | none => exact .silent inPlace bench
  | some step =>
      simp only
      split
      · split
        · exact .silent inPlace bench
        · next reaction changed hremove =>
            have hremoved : Amends inPlace step [] _ changed _ := .reactionRemoved hremove
            rw [key_of_step? hstep] at hremoved
            have hedits := edits_of_amends (f := fun _ => changed) hunique hstep hremoved
            refine .of_edits ⟨rfl, rfl, rfl, id⟩ (hedits.beside (.refl _) ?_)
            classical
            refine List.perm_iff_count.mpr fun item => ?_
            simp only [items, updateStep, List.map_cons, List.count_append, List.count_cons,
              List.count_nil]
            omega
      · exact .silent inPlace bench

theorem reported_setTutorial (field : TutorialField) (text : String) :
    Reported inPlace bench (bench.setTutorial field text).notices
      (bench.setTutorial field text).bench :=
  .of_edits ⟨rfl, rfl, rfl, id⟩ (.tutorial_set field text bench.items)

theorem reported_setStep (hunique : (bench.stock []).Unique) (key : StepKey) (field : StepField)
    (text : String) :
    Reported inPlace bench (bench.setStep key field text).notices
      (bench.setStep key field text).bench := by
  unfold setStep
  cases hstep : bench.step? key with
  | none => exact .silent inPlace bench
  | some step =>
      have hdata : Amends inPlace step [] [.stepData step.key] (step.set field text) [] :=
        .data (step.key_set field text) (by cases field <;> rfl)
      rw [key_of_step? hstep] at hdata
      exact .of_edits ⟨rfl, rfl, rfl, id⟩
        (edits_of_amends (f := fun step => step.set field text) hunique hstep hdata)

theorem reported_setReaction (hunique : (bench.stock []).Unique) (key : ReactionKey)
    (value : ReactionValue) :
    Reported inPlace bench (bench.setReaction key value).notices
      (bench.setReaction key value).bench := by
  unfold setReaction
  cases hreaction : bench.reaction? key with
  | none => exact .silent inPlace bench
  | some reaction =>
      have hdata : Revises inPlace reaction [.reactionData reaction.key]
          (reaction.exchange value).1 := .data (reaction.key_exchange value)
      rw [key_of_reaction? hreaction] at hdata
      exact .of_edits ⟨rfl, rfl, rfl, id⟩ (edits_of_revises
        (f := fun reaction => (reaction.exchange value).1) hunique hreaction hdata)

theorem reported_editCondition (hunique : (bench.stock []).Unique) (key : ReactionKey)
    (path : List Nat) (request : ConditionRequest) :
    Reported true bench (bench.editCondition key path request).notices
      (bench.editCondition key path request).bench := by
  unfold editCondition
  cases hreaction : bench.reaction? key with
  | none => exact .silent true bench
  | some reaction =>
      simp only
      split
      · exact .silent true bench
      · next condition hcondition =>
          generalize ConditionEditor.serve path request _ = edited
          rcases edited with ⟨editor, notices, answer⟩
          have hedits := edits_of_revises
            (f := fun reaction => { reaction with condition := some editor.condition }) hunique
            hreaction (.condition reaction (some editor.condition))
          exact ⟨⟨rfl, rfl, rfl, id⟩, [], hedits, documents_condition notices⟩

/-!
# Requests to the history

A history works on commands whose items have been taken from the bench.
-/

theorem reported_adopt {between : Workbench} {given : List Item} {edited : Edited}
    (hyields : bench.Yields between given)
    (h : forall others, Edits inPlace
      (between.tutorial.stock (given ++ (between.history.items ++ others)))
      edited.changes (edited.tutorial.stock (edited.history.items ++ others))) :
    Reported inPlace bench (between.adopt edited).notices (between.adopt edited).bench := by
  have hkeeps := hyields.keeps
  exact .of_edits ⟨hkeeps.watchers, hkeeps.knownSteps, hkeeps.knownReactions, hkeeps.names⟩
    (hyields.edits.trans (h _))

theorem reported_push (order : Order) :
    Reported inPlace bench (bench.push order).notices (bench.push order).bench := by
  have hyields := yields_build bench order
  unfold push
  generalize build bench order = built at hyields ⊢
  rcases built with ⟨between, made⟩
  cases made with
  | none => exact .of_yields hyields
  | some command =>
      exact reported_adopt hyields (between.history.edits_of_push command between.tutorial)

theorem reported_commit (label : String) (orders : List Order) :
    Reported inPlace bench (bench.commit label orders).notices
      (bench.commit label orders).bench := by
  have hyields := yields_buildAll bench orders
  unfold commit
  generalize buildAll bench orders = built at hyields ⊢
  rcases built with ⟨between, made⟩
  cases made with
  | none => exact .of_yields hyields
  | some commands =>
      exact reported_adopt hyields (between.history.edits_of_commit label commands between.tutorial)

theorem reported_undo : Reported inPlace bench bench.undo.notices bench.undo.bench :=
  reported_adopt (.refl bench) (bench.history.edits_of_undo bench.tutorial)

theorem reported_redo : Reported inPlace bench bench.redo.notices bench.redo.bench :=
  reported_adopt (.refl bench) (bench.history.edits_of_redo bench.tutorial)

theorem reported_setClean : Reported inPlace bench bench.setClean.notices bench.setClean.bench :=
  ⟨⟨rfl, rfl, rfl, id⟩, [], .refl _, rfl⟩

theorem reported_clear : Reported inPlace bench bench.clear.notices bench.clear.bench := by
  have hperm : bench.items.Perm (bench.clear.bench.items ++ bench.history.items) :=
    List.perm_append_comm
  exact ⟨⟨rfl, rfl, rfl, id⟩, [], (Edits.refl _).losing bench.history.items hperm, rfl⟩

/-!
# Requests to prepared commands

Commands that have been prepared are found by their names and replaced by what they have become.
-/

theorem reported_prepare (name : String) (order : Order) :
    Reported inPlace bench (bench.prepare name order).notices (bench.prepare name order).bench := by
  have hyields := yields_build bench order
  unfold prepare
  generalize build bench order = built at hyields ⊢
  rcases built with ⟨between, made⟩
  cases made with
  | none => exact .of_yields hyields
  | some command =>
      let kept := between.prepared.filter fun entry => entry.1 != name
      let dropped := between.prepared.filter fun entry => !(entry.1 != name)
      have hnames : (bench.prepared.map Prod.fst).Nodup ->
          (((name, command) :: kept).map Prod.fst).Nodup := by
        intro h
        refine List.nodup_cons.mpr ⟨?_, (hyields.keeps.names h).sublist (List.filter_sublist.map _)⟩
        simp [kept]
      have hperm : (command.items ++ between.items).Perm
          (items { between with prepared := (name, command) :: kept } ++
            dropped.flatMap fun entry => entry.2.items) := by
        classical
        refine List.perm_iff_count.mpr fun item => ?_
        have hcount := ((List.filter_append_perm (fun entry => entry.1 != name)
          between.prepared).flatMap_right fun entry => entry.2.items).count_eq item
        simp only [items, List.flatMap_cons, List.flatMap_append, List.count_append, kept,
          dropped] at hcount ⊢
        omega
      have hkeeps := hyields.keeps
      exact ⟨⟨hkeeps.watchers, hkeeps.knownSteps, hkeeps.knownReactions, hnames⟩, [],
        hyields.edits.losing _ hperm, rfl⟩

theorem map_replace_entry {β : Type} {before after : List (String × β)} {name : String}
    {value : β} (value' : β) (h : ((before ++ (name, value) :: after).map Prod.fst).Nodup) :
    ((before ++ (name, value) :: after).map fun entry =>
      if entry.1 == name then (name, value') else entry) = before ++ (name, value') :: after := by
  rw [List.map_append, List.map_cons, List.nodup_append] at h
  rcases h with ⟨-, hrest, happart⟩
  have hkept : forall entries : List (String × β),
      (forall entry, entry ∈ entries -> entry.1 ≠ name) ->
      (entries.map fun entry => if entry.1 == name then (name, value') else entry) = entries := by
    intro entries hentries
    refine (List.map_congr_left fun entry hentry => ?_).trans (List.map_id entries)
    simp [hentries entry hentry]
  rw [List.map_append, List.map_cons, hkept before, hkept after]
  · simp
  · intro entry hentry hsame
    exact (List.nodup_cons.mp hrest).1 (List.mem_map.mpr ⟨entry, hentry, hsame⟩)
  · intro entry hentry
    exact happart _ (List.mem_map.mpr ⟨entry, hentry, rfl⟩) _ List.mem_cons_self

theorem reported_runPrepared (hnames : (bench.prepared.map Prod.fst).Nodup) (direction : Direction)
    (name : String) :
    Reported inPlace bench (bench.runPrepared direction name).notices
      (bench.runPrepared direction name).bench := by
  unfold runPrepared
  cases hlookup : bench.prepared.lookup name with
  | none => exact .silent inPlace bench
  | some command =>
      rcases List.lookup_eq_some_iff.mp hlookup with ⟨before, after, hprepared, -⟩
      have hrun : Edits inPlace _ _ _ := command.edits_of_run direction bench.tutorial
        (items { bench with prepared := before ++ after })
      rw [hprepared] at hnames
      simp only [hprepared, map_replace_entry _ hnames]
      generalize command.run direction bench.tutorial = attempt at hrun ⊢
      have hmiddle : forall command : Command,
          (items { bench with prepared := before ++ (name, command) :: after }).Perm
            (command.items ++ items { bench with prepared := before ++ after }) := by
        intro command
        classical
        refine List.perm_iff_count.mpr fun item => ?_
        simp only [items, List.flatMap_cons, List.flatMap_append, List.count_append]
        omega
      have hbench : bench.items.Perm
          (command.items ++ items { bench with prepared := before ++ after }) := by
        have hperm := hmiddle command
        rwa [← hprepared] at hperm
      refine .of_edits ⟨rfl, rfl, rfl, fun _ => ?_⟩
        (hrun.beside hbench (hmiddle attempt.command).symm)
      rw [List.map_append, List.map_cons] at hnames ⊢
      exact hnames

end

end Workbench

end TutorialKit
