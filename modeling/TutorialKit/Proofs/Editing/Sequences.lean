import TutorialKit.Proofs.Editing.Reversal

/-!
# Runs as sequences of moves

However groups are put into one another, a run that does not fail moves the actions of the command
one after the other.  What each move does to the tutorial and to its action is thereby known of the
run.
-/

namespace TutorialKit

namespace Action

inductive MovesAll (direction : Direction) :
    List Action -> LiveTutorial -> List Action -> LiveTutorial -> Prop where
  | nil (tutorial : LiveTutorial) : MovesAll direction [] tutorial [] tutorial
  | cons {a a' : Action} {rest rest' : List Action} {tutorial between tutorial' : LiveTutorial} :
      Moves direction a tutorial a' between -> MovesAll direction rest between rest' tutorial' ->
      MovesAll direction (a :: rest) tutorial (a' :: rest') tutorial'

theorem MovesAll.append {direction : Direction} {first first' rest rest' : List Action}
    {tutorial between tutorial' : LiveTutorial}
    (hfirst : MovesAll direction first tutorial first' between)
    (hrest : MovesAll direction rest between rest' tutorial') :
    MovesAll direction (first ++ rest) tutorial (first' ++ rest') tutorial' := by
  induction hfirst with
  | nil tutorial => exact hrest
  | cons hmoves hlater ih => exact .cons hmoves (ih hrest)

/-!
# What is held when

An action that puts something in holds it before, and one that takes something out holds it
afterwards.
-/

/-- Whether the action holds what it needs for a run in the direction, and nothing else. -/
def Awaits (direction : Direction) : Action -> Prop
  | addStep _ _ held => held.isSome = true ↔ direction = .redo
  | removeStep _ _ held => held.isSome = true ↔ direction = .undo
  | addReaction _ _ _ held => held.isSome = true ↔ direction = .redo
  | removeReaction _ _ _ held => held.isSome = true ↔ direction = .undo
  | _ => True

theorem Moves.awaits {direction : Direction} {a a' : Action} {tutorial tutorial' : LiveTutorial}
    (h : Moves direction a tutorial a' tutorial') :
    a.Awaits direction ∧ a'.Awaits direction.opposite := by
  cases h <;> simp [Awaits, Direction.opposite]

theorem isExchange_of_awaits {a : Action} (hredo : a.Awaits .redo) (hundo : a.Awaits .undo) :
    a.IsExchange := by
  cases a with
  | setTutorial => trivial
  | setStep => trivial
  | setReaction => trivial
  | addStep => cases hundo.mp (hredo.mpr rfl)
  | removeStep => cases hredo.mp (hundo.mpr rfl)
  | addReaction => cases hundo.mp (hredo.mpr rfl)
  | removeReaction => cases hredo.mp (hundo.mpr rfl)

/-!
# Exchanges

An exchange needs only that what it is about is there, and leaves that there.
-/

end Action

namespace LiveTutorial

theorem step_mem_entities_iff {tutorial : LiveTutorial} {key : StepKey} :
    .step key ∈ tutorial.entities ↔ exists step, tutorial.step? key = some step := by
  constructor
  · intro h
    rcases List.mem_flatMap.mp h with ⟨step, hstep, hkey⟩
    cases hfind : tutorial.step? key with
    | some found => exact ⟨found, rfl⟩
    | none =>
        have hother := List.find?_eq_none.mp hfind step hstep
        simp [LiveStep.entities] at hkey
        simp [hkey] at hother
  · rintro ⟨step, hstep⟩
    rw [← key_of_step? hstep]
    exact List.mem_flatMap.mpr ⟨step, mem_of_step? hstep, by simp [LiveStep.entities]⟩

theorem reaction_mem_entities_iff {tutorial : LiveTutorial} {key : ReactionKey} :
    .reaction key ∈ tutorial.entities ↔
      exists reaction, tutorial.reaction? key = some reaction := by
  constructor
  · intro h
    rcases List.mem_flatMap.mp h with ⟨step, hstep, hkey⟩
    cases hfind : tutorial.reaction? key with
    | some found => exact ⟨found, rfl⟩
    | none =>
        have hother := List.find?_eq_none.mp (List.findSome?_eq_none_iff.mp hfind step hstep)
        simp [LiveStep.entities] at hkey
        rcases hkey with ⟨reaction, hreaction, rfl⟩
        simpa using hother reaction hreaction
  · rintro ⟨reaction, hreaction⟩
    rcases steps_updateReaction hreaction with ⟨before, step, after, hsteps, hstep, -⟩
    rw [← key_of_reaction? hreaction]
    refine List.mem_flatMap.mpr ⟨step, by simp [hsteps], ?_⟩
    have hmem := List.mem_of_find?_eq_some hstep
    exact List.mem_cons_of_mem _ (List.mem_map.mpr ⟨_, hmem, rfl⟩)

end LiveTutorial

namespace Action

/-- Whether what an exchange is about is among the entities. -/
def Fits (entities : List Entity) : Action -> Prop
  | setStep key _ _ => .step key ∈ entities
  | setReaction key _ => .reaction key ∈ entities
  | _ => True

theorem Moves.exchange {direction : Direction} {a a' : Action}
    {tutorial tutorial' : LiveTutorial} (h : Moves direction a tutorial a' tutorial')
    (ha : a.IsExchange) :
    tutorial'.entities.Perm tutorial.entities ∧ a'.IsExchange ∧ a'.Fits tutorial.entities := by
  have hentities := h.entities_perm
  cases h with
  | setTutorial => simp [IsExchange, Fits]
  | setStep _ field text hstep =>
      refine ⟨by simpa [entities] using hentities, trivial, ?_⟩
      exact LiveTutorial.step_mem_entities_iff.mpr ⟨_, hstep⟩
  | setReaction _ value hreaction =>
      refine ⟨by simpa [entities] using hentities, trivial, ?_⟩
      exact LiveTutorial.reaction_mem_entities_iff.mpr ⟨_, hreaction⟩
  | addStep => cases ha
  | unaddStep => cases ha
  | removeStep => cases ha
  | unremoveStep => cases ha
  | addReaction => cases ha
  | unaddReaction => cases ha
  | removeReaction => cases ha
  | unremoveReaction => cases ha

theorem Fits.perm {entities entities' : List Entity} {a : Action} (h : a.Fits entities)
    (hperm : entities.Perm entities') : a.Fits entities' := by
  cases a with
  | setStep => exact hperm.mem_iff.mp h
  | setReaction => exact hperm.mem_iff.mp h
  | _ => trivial

theorem moves_of_fits (direction : Direction) {a : Action} {tutorial : LiveTutorial}
    (ha : a.IsExchange) (hfits : a.Fits tutorial.entities) :
    exists a' tutorial', Moves direction a tutorial a' tutorial' := by
  cases a with
  | setTutorial field text => exact ⟨_, _, .setTutorial direction field text tutorial⟩
  | setStep key field text =>
      rcases LiveTutorial.step_mem_entities_iff.mp hfits with ⟨step, hstep⟩
      exact ⟨_, _, .setStep direction field text hstep⟩
  | setReaction key value =>
      rcases LiveTutorial.reaction_mem_entities_iff.mp hfits with ⟨reaction, hreaction⟩
      exact ⟨_, _, .setReaction direction value hreaction⟩
  | _ => cases ha

theorem MovesAll.awaits {direction : Direction} {actions actions' : List Action}
    {tutorial tutorial' : LiveTutorial}
    (h : MovesAll direction actions tutorial actions' tutorial') :
    (forall a, a ∈ actions -> a.Awaits direction) ∧
      forall a, a ∈ actions' -> a.Awaits direction.opposite := by
  induction h with
  | nil tutorial => simp
  | cons hfirst hrest ih =>
      rw [List.forall_mem_cons, List.forall_mem_cons]
      exact ⟨⟨hfirst.awaits.1, ih.1⟩, hfirst.awaits.2, ih.2⟩

theorem MovesAll.exchange {direction : Direction} {actions actions' : List Action}
    {tutorial tutorial' : LiveTutorial}
    (h : MovesAll direction actions tutorial actions' tutorial')
    (hactions : forall a, a ∈ actions -> a.IsExchange) :
    tutorial'.entities.Perm tutorial.entities ∧ (forall a, a ∈ actions' -> a.IsExchange) ∧
      forall a, a ∈ actions' -> a.Fits tutorial.entities := by
  induction h with
  | nil tutorial => simp
  | cons hfirst hrest ih =>
      rw [List.forall_mem_cons] at hactions
      rcases hfirst.exchange hactions.1 with ⟨hbetween, hfirst', hfits⟩
      rcases ih hactions.2 with ⟨htutorial', hrest', hfitsRest⟩
      rw [List.forall_mem_cons, List.forall_mem_cons]
      exact ⟨htutorial'.trans hbetween, ⟨hfirst', hrest'⟩, hfits,
        fun a ha => (hfitsRest a ha).perm hbetween⟩

end Action

namespace Command

/-!
# Flat runs

The actions of a command are run in one order, however they are grouped.
-/

def orderedActions (direction : Direction) (actions : List Action) : List Action :=
  match direction with
  | .redo => actions
  | .undo => actions.reverse

theorem mem_orderedActions {direction : Direction} {actions : List Action} {a : Action} :
    a ∈ orderedActions direction actions ↔ a ∈ actions := by
  cases direction <;> simp [orderedActions]

theorem orderedActions_flatMap (direction : Direction) (members : List Command) :
    orderedActions direction (members.flatMap actions) =
      (ordered direction members).flatMap fun member =>
        orderedActions direction member.actions := by
  cases direction with
  | redo => rfl
  | undo => simp [orderedActions, ordered, List.reverse_flatMap, Function.comp_def]

theorem movesAll_of_givesAll {direction : Direction} {depth : Nat} {members members' : List Command}
    {tutorial tutorial' : LiveTutorial}
    (hmoves : forall command, height command <= depth -> forall {command' tutorial tutorial'},
      Owned tutorial [command] -> Gives direction command tutorial none command' tutorial' ->
      Action.MovesAll direction (orderedActions direction command.actions) tutorial
        (orderedActions direction command'.actions) tutorial')
    (hdepth : heightAll members <= depth) (howned : Owned tutorial members)
    (h : GivesAll direction members tutorial none members' tutorial') :
    Action.MovesAll direction
      (members.flatMap fun member => orderedActions direction member.actions) tutorial
      (members'.flatMap fun member => orderedActions direction member.actions) tutorial' := by
  induction members generalizing tutorial members' with
  | nil =>
      rcases givesAll_nil_iff.mp h with ⟨-, rfl, rfl⟩
      exact .nil _
  | cons first rest ih =>
      rcases givesAll_cons_none_iff.mp h with ⟨first', between, rest', hfirst, hrest, rfl⟩
      simp only [heightAll] at hdepth
      rw [List.flatMap_cons, List.flatMap_cons]
      exact (hmoves first (by omega) howned.head hfirst).append
        (ih (by omega) (howned.gives hfirst).tail hrest)

theorem Gives.movesAll {direction : Direction} {command command' : Command}
    {tutorial tutorial' : LiveTutorial} (howned : Owned tutorial [command])
    (h : Gives direction command tutorial none command' tutorial') :
    Action.MovesAll direction (orderedActions direction command.actions) tutorial
      (orderedActions direction command'.actions) tutorial' := by
  induction command generalizing tutorial tutorial' command' with
  | action a =>
      rcases moves_of_gives howned h with ⟨a', hmoves, rfl⟩
      rw [actions_action, actions_action]
      cases direction with
      | redo => exact .cons hmoves (.nil _)
      | undo => exact .cons hmoves (.nil _)
  | group label members ih =>
      rcases gives_group_iff.mp h with ⟨members', hmembers, rfl⟩
      have hordered := (Owned.group_iff.mp howned).perm (ordered_perm direction members)
      have hmoves := movesAll_of_givesAll ih (heightAll_ordered_le direction members) hordered
        hmembers
      rw [actions_group, actions_group, orderedActions_flatMap, orderedActions_flatMap,
        ordered_ordered]
      exact hmoves

/-!
# Exchanges only

A command of exchanges passes wherever everything is there that it is about.
-/

theorem every_ordered {direction : Direction} {p : Action -> Prop} {command : Command} :
    (forall a, a ∈ orderedActions direction command.actions -> p a) ↔ Every p command := by
  simp only [Every, mem_orderedActions]

theorem Gives.awaits {direction : Direction} {command command' : Command}
    {tutorial tutorial' : LiveTutorial} (howned : Owned tutorial [command])
    (h : Gives direction command tutorial none command' tutorial') :
    Every (Action.Awaits direction) command ∧
      Every (Action.Awaits direction.opposite) command' := by
  rw [← every_ordered (p := Action.Awaits direction), ← every_ordered]
  exact (h.movesAll howned).awaits

theorem Gives.exchange {direction : Direction} {command command' : Command}
    {tutorial tutorial' : LiveTutorial} (howned : Owned tutorial [command])
    (h : Gives direction command tutorial none command' tutorial')
    (hcommand : Every Action.IsExchange command) :
    Every Action.IsExchange command' ∧ Every (Action.Fits tutorial.entities) command' := by
  rw [← every_ordered] at hcommand
  rw [← every_ordered (p := Action.IsExchange), ← every_ordered]
  exact ((h.movesAll howned).exchange hcommand).2

theorem exchange_passes_all {direction : Direction} {depth : Nat} {members : List Command}
    {tutorial : LiveTutorial}
    (hpasses : forall command, height command <= depth -> forall {tutorial},
      Every Action.IsExchange command -> Every (Action.Fits tutorial.entities) command ->
      exists command' tutorial', Gives direction command tutorial none command' tutorial' ∧
        tutorial'.entities.Perm tutorial.entities)
    (hdepth : heightAll members <= depth)
    (hmembers : forall member, member ∈ members -> Every Action.IsExchange member)
    (hfits : forall member, member ∈ members -> Every (Action.Fits tutorial.entities) member) :
    exists members' tutorial', GivesAll direction members tutorial none members' tutorial' ∧
      tutorial'.entities.Perm tutorial.entities := by
  induction members generalizing tutorial with
  | nil => exact ⟨[], tutorial, givesAll_nil_iff.mpr ⟨rfl, rfl, rfl⟩, List.Perm.refl _⟩
  | cons first rest ih =>
      simp only [heightAll] at hdepth
      rw [List.forall_mem_cons] at hmembers hfits
      rcases hpasses first (by omega) hmembers.1 hfits.1 with
        ⟨first', between, hfirst, hbetween⟩
      have hfitsRest : forall member, member ∈ rest ->
          Every (Action.Fits between.entities) member :=
        fun member hmember a ha => (hfits.2 member hmember a ha).perm hbetween.symm
      rcases ih (by omega) hmembers.2 hfitsRest with ⟨rest', tutorial', hrest, htutorial'⟩
      exact ⟨first' :: rest', tutorial',
        givesAll_cons_none_iff.mpr ⟨first', between, rest', hfirst, hrest, rfl⟩,
        htutorial'.trans hbetween⟩

theorem exchange_passes (direction : Direction) {command : Command} {tutorial : LiveTutorial}
    (hcommand : Every Action.IsExchange command)
    (hfits : Every (Action.Fits tutorial.entities) command) :
    exists command' tutorial', Gives direction command tutorial none command' tutorial' ∧
      tutorial'.entities.Perm tutorial.entities := by
  induction command generalizing tutorial with
  | action a =>
      rw [every_action] at hcommand hfits
      rcases Action.moves_of_fits direction hcommand hfits with ⟨a', tutorial', hmoves⟩
      exact ⟨action a', tutorial', gives_of_moves hmoves, (hmoves.exchange hcommand).1⟩
  | group label members ih =>
      rw [every_group] at hcommand hfits
      rcases exchange_passes_all ih (heightAll_ordered_le direction members)
        (fun member hmember => hcommand member (mem_ordered.mp hmember))
        (fun member hmember => hfits member (mem_ordered.mp hmember)) with
        ⟨members', tutorial', hmembers, hentities⟩
      exact ⟨_, tutorial', gives_group_iff.mpr ⟨members', hmembers, rfl⟩, hentities⟩

end Command
end TutorialKit
