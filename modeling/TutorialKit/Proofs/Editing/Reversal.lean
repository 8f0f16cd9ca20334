import TutorialKit.Proofs.Editing.Runs

/-!
# Commands and what they own

A step or a reaction is in the tutorial or held by one command.  Running commands keeps it so, in
either direction and also where a run fails.  From this it follows that a command which fails to be
carried out leaves the tutorial as it was, and that one which has been carried out can be taken
back at once and carried out again.
-/

namespace TutorialKit
namespace Command

/-!
# Actions of a command

A command is known by the actions that it consists of, however they are grouped.
-/

mutual

def actions : Command -> List Action
  | action a => [a]
  | group _ members => actionsAll members

def actionsAll : List Command -> List Action
  | [] => []
  | first :: rest => actions first ++ actionsAll rest

end

theorem actions_action (a : Action) : actions (action a) = [a] := by
  rw [actions]

theorem actions_group (label : String) (members : List Command) :
    actions (group label members) = members.flatMap actions := by
  rw [actions]
  induction members with
  | nil => rfl
  | cons first rest ih => rw [actionsAll, ih, List.flatMap_cons]

def entities (command : Command) : List Entity :=
  command.actions.flatMap Action.entities

def Every (p : Action -> Prop) (command : Command) : Prop :=
  forall a, a ∈ command.actions -> p a

@[simp] theorem every_action {p : Action -> Prop} {a : Action} : Every p (action a) ↔ p a := by
  simp [Every, actions_action]

@[simp] theorem every_group {p : Action -> Prop} {label : String} {members : List Command} :
    Every p (group label members) ↔ forall member, member ∈ members -> Every p member := by
  simp only [Every, actions_group, List.mem_flatMap]
  constructor
  · intro h member hmember a ha
    exact h a ⟨member, hmember, ha⟩
  · rintro h a ⟨member, hmember, ha⟩
    exact h member hmember a ha

/-- Whatever the command holds bears the key that the command names.  This is so for every command
when it is built. -/
def Keyed (command : Command) : Prop :=
  Every Action.Keyed command

@[simp] theorem entities_action (a : Action) : entities (action a) = a.entities := by
  simp [entities, actions_action]

@[simp] theorem entities_group (label : String) (members : List Command) :
    entities (group label members) = members.flatMap entities := by
  simp only [entities, actions_group, List.flatMap_assoc]
  rfl

@[simp] theorem keyed_action {a : Action} : Keyed (action a) ↔ a.Keyed :=
  every_action

@[simp] theorem keyed_group {label : String} {members : List Command} :
    Keyed (group label members) ↔ forall member, member ∈ members -> Keyed member :=
  every_group

/-!
# One owner each

What one command exchanges with the tutorial concerns no other command.
-/

/-- Every step and every reaction is in the tutorial or held by one of the commands, once. -/
structure Owned (tutorial : LiveTutorial) (commands : List Command) : Prop where
  keyed : forall command, command ∈ commands -> Keyed command
  unique : (tutorial.entities ++ commands.flatMap entities).Nodup

namespace Owned

variable {tutorial tutorial' : LiveTutorial} {first first' : Command}
  {rest commands commands' : List Command}

theorem head (h : Owned tutorial (first :: rest)) : Owned tutorial [first] where
  keyed := by
    intro command hcommand
    rw [List.mem_singleton.mp hcommand]
    exact h.keyed first List.mem_cons_self
  unique := by
    have hunique := h.unique
    rw [List.flatMap_cons, ← List.append_assoc] at hunique
    simpa using (List.nodup_append.mp hunique).1

theorem tail (h : Owned tutorial (first :: rest)) : Owned tutorial rest where
  keyed := fun command hcommand => h.keyed command (List.mem_cons_of_mem first hcommand)
  unique := by
    have hunique := h.unique
    rw [List.flatMap_cons] at hunique
    exact hunique.sublist ((List.sublist_append_right _ _).append_left _)

theorem perm (h : Owned tutorial commands) (hperm : commands'.Perm commands) :
    Owned tutorial commands' where
  keyed := fun command hcommand => h.keyed command (hperm.mem_iff.mp hcommand)
  unique := ((hperm.flatMap_right entities).append_left _).nodup_iff.mpr h.unique

theorem of_mem {command : Command} (h : Owned tutorial commands) (hcommand : command ∈ commands) :
    Owned tutorial [command] := by
  rcases List.append_of_mem hcommand with ⟨before, after, rfl⟩
  exact (h.perm List.perm_middle.symm).head

theorem group_iff {label : String} :
    Owned tutorial [group label commands] ↔ Owned tutorial commands := by
  constructor
  · intro h
    exact ⟨keyed_group.mp (h.keyed _ List.mem_cons_self), by simpa using h.unique⟩
  · intro h
    refine ⟨?_, by simpa using h.unique⟩
    intro command hcommand
    rw [List.mem_singleton.mp hcommand, keyed_group]
    exact h.keyed

theorem shiftsAll {members members' others : List Command} (h : Owned tutorial (members ++ others))
    (hshifts : Action.Shifts tutorial (members.flatMap actions) tutorial'
      (members'.flatMap actions)) : Owned tutorial' (members' ++ others) where
  keyed := by
    have hmembers : forall a, a ∈ members.flatMap actions -> a.Keyed := by
      intro a ha
      rcases List.mem_flatMap.mp ha with ⟨member, hmember, ha⟩
      exact h.keyed member (List.mem_append_left others hmember) a ha
    intro command hcommand
    rcases List.mem_append.mp hcommand with hcommand | hcommand
    · exact fun a ha => hshifts.keyed hmembers a (List.mem_flatMap.mpr ⟨command, hcommand, ha⟩)
    · exact h.keyed command (List.mem_append_right members hcommand)
  unique := by
    have hunique := h.unique
    have hperm := hshifts.entities_perm
    rw [List.flatMap_assoc, List.flatMap_assoc] at hperm
    rw [List.flatMap_append, ← List.append_assoc] at hunique ⊢
    exact (hperm.append_right _).nodup_iff.mpr hunique

theorem shifts (h : Owned tutorial (first :: rest))
    (hshifts : Action.Shifts tutorial first.actions tutorial' first'.actions) :
    Owned tutorial' (first' :: rest) := by
  have hsingle : Action.Shifts tutorial ([first].flatMap actions) tutorial'
      ([first'].flatMap actions) := by
    simpa using hshifts
  exact shiftsAll h hsingle

end Owned

theorem moves_of_gives {direction : Direction} {a : Action} {command : Command}
    {tutorial tutorial' : LiveTutorial} (howned : Owned tutorial [action a])
    (h : Gives direction (action a) tutorial none command tutorial') :
    exists a', Action.Moves direction a tutorial a' tutorial' ∧ command = action a' := by
  rcases gives_action_none_iff.mp h with ⟨a', changes, hrun, rfl⟩
  have hkeyed : a.Keyed := keyed_action.mp (howned.keyed _ List.mem_cons_self)
  have hunique : (tutorial.entities ++ a.entities).Nodup := by simpa using howned.unique
  exact ⟨a', Action.moves_of_run hkeyed hunique hrun, rfl⟩

theorem gives_of_moves {direction : Direction} {a a' : Action} {tutorial tutorial' : LiveTutorial}
    (h : Action.Moves direction a tutorial a' tutorial') :
    Gives direction (action a) tutorial none (action a') tutorial' := by
  rcases Action.run_of_moves h with ⟨changes, hrun⟩
  exact gives_action_none_iff.mpr ⟨a', changes, hrun, rfl⟩

/-!
# Nothing is lost

Whatever becomes of a run, it has only moved actions of the command, some of them there and back.
-/

theorem shifts_all {depth : Nat}
    (hshifts : forall command, height command <= depth ->
      forall {direction tutorial fault command' tutorial'}, Owned tutorial [command] ->
      Gives direction command tutorial fault command' tutorial' ->
      Action.Shifts tutorial command.actions tutorial' command'.actions)
    {direction : Direction} {members members' : List Command} {tutorial tutorial' : LiveTutorial}
    {fault : Option Fault} (hdepth : heightAll members <= depth) (howned : Owned tutorial members)
    (hgives : GivesAll direction members tutorial fault members' tutorial') :
    Action.Shifts tutorial (members.flatMap actions) tutorial' (members'.flatMap actions) := by
  induction members generalizing tutorial tutorial' members' fault with
  | nil =>
      rcases givesAll_nil_iff.mp hgives with ⟨-, rfl, rfl⟩
      exact .perm _ (List.Perm.refl _)
  | cons first rest ih =>
      simp only [heightAll] at hdepth
      rw [List.flatMap_cons]
      -- what the first member and then the rest lead to
      have hboth : forall {fault first' between rest' last},
          Gives direction first tutorial none first' between ->
          GivesAll direction rest between fault rest' last ->
          Action.Shifts tutorial (first.actions ++ rest.flatMap actions) last
            (first'.actions ++ rest'.flatMap actions) := by
        intro fault first' between rest' last hfirst hrest
        have hfirst' := hshifts first (by omega) howned.head hfirst
        have hrest' := ih (by omega) (howned.shifts hfirst').tail hrest
        exact (hfirst'.append_right _).trans (hrest'.append_left _)
      cases fault with
      | none =>
          rcases givesAll_cons_none_iff.mp hgives with
            ⟨first', between, rest', hfirst, hrest, rfl⟩
          rw [List.flatMap_cons]
          exact hboth hfirst hrest
      | some fault =>
          rcases givesAll_cons_some_iff.mp hgives with ⟨first', hfirst, rfl⟩ |
            ⟨first', between, rest', reached, fault', first'', hfirst, hrest, hback, rfl⟩
          · rw [List.flatMap_cons]
            exact (hshifts first (by omega) howned.head hfirst).append_right _
          · have hreached := hboth hfirst hrest
            have howned' : Owned reached (first' :: rest' ++ []) :=
              Owned.shiftsAll (by rwa [List.append_nil]) hreached
            have hback' := hshifts first' (Nat.le_trans hfirst.height_le (by omega))
              howned'.head hback
            rw [List.flatMap_cons]
            exact hreached.trans (hback'.append_right _)

theorem Gives.shifts {direction : Direction} {command command' : Command}
    {tutorial tutorial' : LiveTutorial} {fault : Option Fault}
    (h : Gives direction command tutorial fault command' tutorial')
    (howned : Owned tutorial [command]) :
    Action.Shifts tutorial command.actions tutorial' command'.actions := by
  induction command generalizing direction tutorial fault command' tutorial' with
  | action a =>
      cases fault with
      | some fault =>
          rcases gives_action_some_iff.mp h with ⟨-, rfl, rfl⟩
          exact .perm _ (List.Perm.refl _)
      | none =>
          rcases moves_of_gives howned h with ⟨a', hmoves, rfl⟩
          rw [actions_action, actions_action]
          exact .move [] hmoves
  | group label members ih =>
      rcases gives_group_iff.mp h with ⟨members', hmembers, rfl⟩
      have hordered := ordered_perm direction members
      have hshifts := shifts_all
        (fun command hdepth {_ _ _ _ _} howned hgives => ih command hdepth hgives howned)
        (heightAll_ordered_le direction members)
        ((Owned.group_iff.mp howned).perm hordered) hmembers
      rw [actions_group, actions_group]
      exact (Action.Shifts.perm _ (hordered.symm.flatMap_right actions)).trans
        (hshifts.trans (.perm _ ((ordered_perm direction members').symm.flatMap_right actions)))

theorem Gives.entities_perm {direction : Direction} {command command' : Command}
    {tutorial tutorial' : LiveTutorial} {fault : Option Fault}
    (h : Gives direction command tutorial fault command' tutorial')
    (howned : Owned tutorial [command]) :
    (tutorial'.entities ++ command'.entities).Perm (tutorial.entities ++ command.entities) :=
  (h.shifts howned).entities_perm

theorem Owned.gives {direction : Direction} {first first' : Command} {rest : List Command}
    {tutorial tutorial' : LiveTutorial} {fault : Option Fault}
    (h : Owned tutorial (first :: rest))
    (hgives : Gives direction first tutorial fault first' tutorial') :
    Owned tutorial' (first' :: rest) :=
  h.shifts (hgives.shifts h.head)

/-!
# Taking back what has been carried out

The induction is on the command: members that have been carried out are taken back in opposite
order.
-/

/-- Between the two tutorials, carrying out one command and taking back the other lead to each
other. -/
def Swings (undone applied : Command) (tutorial tutorial' : LiveTutorial) : Prop :=
  Gives .redo undone tutorial none applied tutorial' ∧
    Gives .undo applied tutorial' none undone tutorial

/-- A command which fails leaves the tutorial as it was; one which does not can be taken back. -/
structure Reversible (command : Command) (tutorial : LiveTutorial) : Prop where
  swings : forall {applied tutorial'}, Gives .redo command tutorial none applied tutorial' ->
    exists undone, Swings undone applied tutorial tutorial'
  atomic : forall {fault command' tutorial'},
    Gives .redo command tutorial (some fault) command' tutorial' -> tutorial' = tutorial

theorem reversible_action {a : Action} {tutorial : LiveTutorial}
    (howned : Owned tutorial [action a]) : Reversible (action a) tutorial where
  swings := by
    intro applied tutorial' hgives
    rcases moves_of_gives howned hgives with ⟨b, hmoves, rfl⟩
    rcases hmoves.undo_of_redo with ⟨a', hundo, hredo⟩
    exact ⟨action a', gives_of_moves hredo, gives_of_moves hundo⟩
  atomic := by
    intro fault command' tutorial' hgives
    exact (gives_action_some_iff.mp hgives).2.2

theorem swings_all {members applied : List Command} {tutorial tutorial' : LiveTutorial}
    {depth : Nat}
    (hreversible : forall command, height command <= depth -> forall tutorial,
      Owned tutorial [command] -> Reversible command tutorial)
    (hdepth : heightAll members <= depth) (howned : Owned tutorial members)
    (hgives : GivesAll .redo members tutorial none applied tutorial') :
    exists undone, GivesAll .redo undone tutorial none applied tutorial' ∧
      GivesAll .undo applied.reverse tutorial' none undone.reverse tutorial := by
  induction members generalizing tutorial applied with
  | nil =>
      rcases givesAll_nil_iff.mp hgives with ⟨-, rfl, rfl⟩
      exact ⟨[], hgives, givesAll_nil_iff.mpr ⟨rfl, rfl, rfl⟩⟩
  | cons first rest ih =>
      rcases givesAll_cons_none_iff.mp hgives with ⟨first', between, rest', hfirst, hrest, rfl⟩
      simp only [heightAll] at hdepth
      rcases (hreversible first (by omega) tutorial howned.head).swings hfirst with
        ⟨undone, hredo, hundo⟩
      rcases ih (by omega) (howned.gives hfirst).tail hrest with ⟨undoneRest, hredoRest, hundoRest⟩
      refine ⟨undone :: undoneRest,
        givesAll_cons_none_iff.mpr ⟨first', between, rest', hredo, hredoRest, rfl⟩, ?_⟩
      rw [List.reverse_cons, List.reverse_cons]
      have hlast : GivesAll .undo [first'] between none [undone] tutorial :=
        givesAll_cons_none_iff.mpr
          ⟨undone, tutorial, [], hundo, givesAll_nil_iff.mpr ⟨rfl, rfl, rfl⟩, rfl⟩
      exact givesAll_append_none_iff.mpr ⟨_, between, _, hundoRest, hlast, rfl⟩

theorem atomic_all {members members' : List Command} {tutorial tutorial' : LiveTutorial}
    {depth : Nat} {fault : Fault}
    (hreversible : forall command, height command <= depth -> forall tutorial,
      Owned tutorial [command] -> Reversible command tutorial)
    (hdepth : heightAll members <= depth) (howned : Owned tutorial members)
    (hgives : GivesAll .redo members tutorial (some fault) members' tutorial') :
    tutorial' = tutorial := by
  induction members generalizing tutorial tutorial' members' with
  | nil =>
      cases (givesAll_nil_iff.mp hgives).1
  | cons first rest ih =>
      simp only [heightAll] at hdepth
      have hfirstReversible := hreversible first (by omega) tutorial howned.head
      rcases givesAll_cons_some_iff.mp hgives with ⟨first', hfirst, rfl⟩ |
        ⟨first', between, rest', reached, fault', first'', hfirst, hrest, hback, rfl⟩
      · exact hfirstReversible.atomic hfirst
      · have hreached := ih (by omega) (howned.gives hfirst).tail hrest
        subst hreached
        rcases hfirstReversible.swings hfirst with ⟨undone, -, hundo⟩
        exact (hback.unique hundo).2.2

theorem reversible {command : Command} {tutorial : LiveTutorial}
    (howned : Owned tutorial [command]) : Reversible command tutorial := by
  induction command generalizing tutorial with
  | action a => exact reversible_action howned
  | group label members ih =>
      have hmembers := Owned.group_iff.mp howned
      have hreversible : forall command, height command <= heightAll members ->
          forall tutorial, Owned tutorial [command] -> Reversible command tutorial :=
        fun command hheight tutorial howned => ih command hheight howned
      constructor
      · intro applied tutorial' hgives
        rcases gives_group_iff.mp hgives with ⟨applied', happlied, rfl⟩
        rcases swings_all hreversible (Nat.le_refl _) hmembers happlied with
          ⟨undone, hredo, hundo⟩
        refine ⟨group label undone, gives_group_iff.mpr ⟨applied', hredo, rfl⟩,
          gives_group_iff.mpr ⟨undone.reverse, hundo, ?_⟩⟩
        simp [ordered]
      · intro fault command' tutorial' hgives
        rcases gives_group_iff.mp hgives with ⟨members', hfault, rfl⟩
        exact atomic_all hreversible (Nat.le_refl _) hmembers hfault

/--
Carrying out a command either fails and leaves the tutorial as it was, however far it came, or it
can be taken back at once, and that leads to the very same tutorial.  What the tutorial and the
command have been through before plays no role.
-/
theorem redo_atomic_and_revertible {command : Command} {tutorial : LiveTutorial}
    (howned : Owned tutorial [command]) :
    let reached := command.run .redo tutorial
    let back := reached.command.run .undo reached.tutorial
    (reached.fault ≠ none -> reached.tutorial = tutorial) ∧
      (reached.fault = none -> back.fault = none ∧ back.tutorial = tutorial) := by
  intro reached back
  have hgives := gives_run .redo command tutorial
  have hreversible := reversible howned
  constructor
  · intro hfault
    rcases Option.ne_none_iff_exists'.mp hfault with ⟨fault, hsome⟩
    rw [hsome] at hgives
    exact hreversible.atomic hgives
  · intro hfault
    rw [hfault] at hgives
    rcases hreversible.swings hgives with ⟨undone, -, hundo⟩
    rcases hundo.run with ⟨hback, -, htutorial⟩
    exact ⟨hback, htutorial⟩

/-- The first group takes out the step of the reaction that it sets at last, and so fails after all
other members have passed; the second one gives the reaction to another step. -/
theorem redo_atomic_and_revertible_in_groups :
    let reaction : LiveReaction := ⟨⟨"r"⟩, .optionSelected, "go", none, .nextStep, "b", ""⟩
    let step : String -> List LiveReaction -> LiveStep :=
      fun name reactions => ⟨⟨name⟩, name, "", "", "", reactions⟩
    let tutorial : LiveTutorial := ⟨"t", "", "", "", "", [step "a" [reaction], step "b" []]⟩
    let failing := group ""
      [action (.setTutorial .name "n"),
        group "" [action (.removeStep ⟨"a"⟩ 7 none),
          action (.addStep ⟨"c"⟩ (some 1) (some (step "c" [])))],
        action (.setReaction ⟨"r"⟩ (.option "stop"))]
    let passing := group ""
      [action (.setReaction ⟨"r"⟩ (.condition (some (.leaf .none .stepActivation)))),
        group "" [action (.removeReaction ⟨"a"⟩ ⟨"r"⟩ 7 none),
          action (.addReaction ⟨"b"⟩ ⟨"q"⟩ none (some { reaction with key := ⟨"q"⟩ }))]]
    let reached := passing.run .redo tutorial
    Owned tutorial [failing] ∧ Owned tutorial [passing] ∧
      (failing.run .redo tutorial).fault ≠ none ∧
      (failing.run .redo tutorial).tutorial = tutorial ∧
      reached.fault = none ∧ (reached.command.run .undo reached.tutorial).tutorial = tutorial := by
  intro reaction step tutorial failing passing reached
  have hfailing : Owned tutorial [failing] := by
    refine ⟨?_, by decide⟩
    simp [failing, Action.Keyed, step]
  have hpassing : Owned tutorial [passing] := by
    refine ⟨?_, by decide⟩
    simp [passing, Action.Keyed]
  have hfault : (failing.run .redo tutorial).fault ≠ none := by decide
  have hpasses : reached.fault = none := by decide
  exact ⟨hfailing, hpassing, hfault, (redo_atomic_and_revertible hfailing).1 hfault, hpasses,
    ((redo_atomic_and_revertible hpassing).2 hpasses).2⟩

end Command
end TutorialKit
