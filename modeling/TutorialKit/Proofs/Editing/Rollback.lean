import TutorialKit.Proofs.Editing.Sequences

/-!
# Undoing that fails

A tutorial may have been changed by others before a group is taken back, and then taking it back may
fail halfway.  The members that have been taken back are carried out again.  This adds what they
have added anew, at the index that they were given or at the end, and need not be where it stood.
An undoing that fails leaves no trace exactly if all that it takes out stands in place.
-/

namespace TutorialKit

namespace Action

theorem inPlace_of_undo_error {a : Action} {tutorial : LiveTutorial} {fault : Fault}
    (h : a.run .undo tutorial = .error fault) : a.InPlace tutorial := by
  cases a with
  | addStep key index held =>
      intro place hplace
      rcases bind_eq_error h with hdetach | ⟨detached, -, hdone⟩
      · rw [(detachStep_eq_error hdetach).1] at hplace
        cases hplace
      · cases hdone
  | addReaction stepKey key index held =>
      intro step place hstep hplace
      rcases bind_eq_error h with hdetach | ⟨detached, -, hdone⟩
      · rcases detachReaction_eq_error hdetach with ⟨habsent, -⟩ | ⟨found, hfound, habsent, -⟩
        · rw [habsent] at hstep
          cases hstep
        · rw [hfound] at hstep
          cases hstep
          rw [habsent] at hplace
          cases hplace
      · cases hdone
  | _ => trivial

end Action

namespace Command

/-!
# In place

What is asked of every action is asked of a command along its way back, as far as that goes.
-/

mutual

/-- All that taking back the command takes out stands where carrying it out would put it. -/
inductive InPlace : Command -> LiveTutorial -> Prop where
  | action {a : Action} {tutorial : LiveTutorial} :
      a.InPlace tutorial -> InPlace (action a) tutorial
  | group (label : String) {members : List Command} {tutorial : LiveTutorial} :
      InPlaceAll members.reverse tutorial -> InPlace (group label members) tutorial

inductive InPlaceAll : List Command -> LiveTutorial -> Prop where
  | nil (tutorial : LiveTutorial) : InPlaceAll [] tutorial
  | cons {first : Command} {rest : List Command} {tutorial : LiveTutorial} :
      InPlace first tutorial ->
      (forall undone between, Gives .undo first tutorial none undone between ->
        InPlaceAll rest between) ->
      InPlaceAll (first :: rest) tutorial

end

theorem inPlace_action_iff {a : Action} {tutorial : LiveTutorial} :
    InPlace (action a) tutorial ↔ a.InPlace tutorial := by
  constructor
  · intro h
    cases h with
    | action ha => exact ha
  · exact .action

theorem inPlace_group_iff {label : String} {members : List Command} {tutorial : LiveTutorial} :
    InPlace (group label members) tutorial ↔ InPlaceAll members.reverse tutorial := by
  constructor
  · intro h
    cases h with
    | group label hmembers => exact hmembers
  · exact .group label

theorem inPlaceAll_cons_iff {first : Command} {rest : List Command} {tutorial : LiveTutorial} :
    InPlaceAll (first :: rest) tutorial ↔ InPlace first tutorial ∧
      forall undone between, Gives .undo first tutorial none undone between ->
        InPlaceAll rest between := by
  constructor
  · intro h
    cases h with
    | cons hfirst hrest => exact ⟨hfirst, hrest⟩
  · rintro ⟨hfirst, hrest⟩
    exact .cons hfirst hrest

theorem inPlaceAll_cons_of_gives {first undone : Command} {rest : List Command}
    {tutorial between : LiveTutorial} (h : Gives .undo first tutorial none undone between) :
    InPlaceAll (first :: rest) tutorial ↔ InPlace first tutorial ∧ InPlaceAll rest between := by
  rw [inPlaceAll_cons_iff]
  constructor
  · rintro ⟨hfirst, hrest⟩
    exact ⟨hfirst, hrest undone between h⟩
  · rintro ⟨hfirst, hrest⟩
    refine ⟨hfirst, ?_⟩
    intro other between' hother
    rw [← (h.unique hother).2.2]
    exact hrest

/-!
# Carrying out again what has been taken back

What has been taken back comes to the same end again just if it was in place.
-/

section

variable {tutorial tutorial' : LiveTutorial}

theorem Owned.givesAll {direction : Direction} {members members' others : List Command}
    {fault : Option Fault} (h : Owned tutorial (members ++ others))
    (hgives : GivesAll direction members tutorial fault members' tutorial') :
    Owned tutorial' (members' ++ others) := by
  have hmembers : Owned tutorial members :=
    ⟨fun member hmember => h.keyed member (List.mem_append_left others hmember), by
      have hunique := h.unique
      rw [List.flatMap_append, ← List.append_assoc] at hunique
      exact (List.nodup_append.mp hunique).1⟩
  exact h.shiftsAll (shifts_all (fun command _ {_ _ _ _ _} howned hgives => hgives.shifts howned)
    (Nat.le_refl _) hmembers hgives)

theorem Owned.givesRest {direction : Direction} {first : Command} {rest rest' : List Command}
    {fault : Option Fault} (h : Owned tutorial (first :: rest))
    (hgives : GivesAll direction rest tutorial fault rest' tutorial') :
    Owned tutorial' (first :: rest') := by
  have hafter := (h.perm (List.perm_append_singleton first rest)).givesAll hgives
  exact hafter.perm (List.perm_append_singleton first rest').symm

theorem givesAll_concat_none_iff {direction : Direction} {members members' : List Command}
    {last last' : Command} :
    GivesAll direction (members ++ [last]) tutorial none (members' ++ [last']) tutorial' ↔
      exists between, GivesAll direction members tutorial none members' between ∧
        Gives direction last between none last' tutorial' := by
  rw [givesAll_append_none_iff]
  constructor
  · rintro ⟨first', between, rest', hfirst, hrest, heq⟩
    rcases givesAll_cons_none_iff.mp hrest with ⟨other, reached, nothing, hlast, hnil, rfl⟩
    rcases givesAll_nil_iff.mp hnil with ⟨-, rfl, rfl⟩
    rcases List.append_inj' heq rfl with ⟨rfl, hother⟩
    cases hother
    exact ⟨between, hfirst, hlast⟩
  · rintro ⟨between, hmembers, hlast⟩
    exact ⟨members', between, [last'], hmembers,
      givesAll_cons_none_iff.mpr
        ⟨last', tutorial', [], hlast, givesAll_nil_iff.mpr ⟨rfl, rfl, rfl⟩, rfl⟩, rfl⟩

theorem undo_of_redo_unique {undone undone' applied : Command} {before : LiveTutorial}
    (howned : Owned tutorial [undone]) (hredo : Gives .redo undone tutorial none applied tutorial')
    (hundo : Gives .undo applied tutorial' none undone' before) : tutorial = before := by
  rcases (reversible howned).swings hredo with ⟨other, -, hback⟩
  exact (hback.unique hundo).2.2

theorem redo_of_undo_action_iff {a : Action} {undone : Command}
    (howned : Owned tutorial [action a])
    (h : Gives .undo (action a) tutorial none undone tutorial') :
    Gives .redo undone tutorial' none (action a) tutorial ↔ InPlace (action a) tutorial := by
  have hafter := howned.gives h
  rcases moves_of_gives howned h with ⟨b, hmoves, rfl⟩
  rw [inPlace_action_iff, ← hmoves.redo_of_undo_iff]
  constructor
  · intro hredo
    rcases moves_of_gives hafter hredo with ⟨a', hback, heq⟩
    cases heq
    exact hback
  · exact gives_of_moves

theorem redo_of_undo_all_iff {depth : Nat} {members undone : List Command}
    (hiff : forall command, height command <= depth -> forall {tutorial tutorial' undone},
      Owned tutorial [command] -> Gives .undo command tutorial none undone tutorial' ->
      (Gives .redo undone tutorial' none command tutorial ↔ InPlace command tutorial))
    (hdepth : heightAll members <= depth) (howned : Owned tutorial members)
    (h : GivesAll .undo members tutorial none undone tutorial') :
    GivesAll .redo undone.reverse tutorial' none members.reverse tutorial ↔
      InPlaceAll members tutorial := by
  induction members generalizing tutorial undone with
  | nil =>
      rcases givesAll_nil_iff.mp h with ⟨-, rfl, rfl⟩
      exact ⟨fun _ => .nil _, fun _ => givesAll_nil_iff.mpr ⟨rfl, rfl, rfl⟩⟩
  | cons first rest ih =>
      rcases givesAll_cons_none_iff.mp h with ⟨first', between, rest', hfirst, hrest, rfl⟩
      simp only [heightAll] at hdepth
      have hbetween := howned.gives hfirst
      have hiffFirst := hiff first (by omega) howned.head hfirst
      have hiffRest := ih (by omega) hbetween.tail hrest
      rw [List.reverse_cons, List.reverse_cons, givesAll_concat_none_iff,
        inPlaceAll_cons_of_gives hfirst]
      constructor
      · rintro ⟨reached, hrestBack, hfirstBack⟩
        have hlast : Owned tutorial' (rest'.reverse ++ [first']) := by
          exact (hbetween.givesRest hrest).perm
            ((List.perm_append_singleton _ _).trans ((List.reverse_perm rest').cons _))
        have hreached : Owned reached [first'] := by
          have hafter := hlast.givesAll hrestBack
          exact (hafter.perm (List.perm_append_comm)).head
        have heq := undo_of_redo_unique hreached hfirstBack hfirst
        subst heq
        exact ⟨hiffFirst.mp hfirstBack, hiffRest.mp hrestBack⟩
      · rintro ⟨hfirstPlace, hrestPlace⟩
        exact ⟨between, hiffRest.mpr hrestPlace, hiffFirst.mpr hfirstPlace⟩

theorem redo_of_undo_iff {command undone : Command} (howned : Owned tutorial [command])
    (h : Gives .undo command tutorial none undone tutorial') :
    Gives .redo undone tutorial' none command tutorial ↔ InPlace command tutorial := by
  induction command generalizing undone tutorial tutorial' with
  | action a => exact redo_of_undo_action_iff howned h
  | group label members ih =>
      rcases gives_group_iff.mp h with ⟨undone', hundone, rfl⟩
      have hreverse : Owned tutorial members.reverse :=
        (Owned.group_iff.mp howned).perm (List.reverse_perm members)
      have hdepth : heightAll members.reverse <= heightAll members :=
        heightAll_ordered_le .undo members
      have hiff := redo_of_undo_all_iff ih hdepth hreverse hundone
      rw [List.reverse_reverse] at hiff
      rw [inPlace_group_iff, ← hiff]
      constructor
      · intro hredo
        rcases gives_group_iff.mp hredo with ⟨members', hmembers, heq⟩
        cases heq
        exact hmembers
      · intro hmembers
        exact gives_group_iff.mpr ⟨members, hmembers, rfl⟩

/-!
# Undoing that fails

The members that have been taken back are carried out again, each from where it has led to.
-/

theorem awaits_all_of_redo_fault {depth : Nat} {members members' : List Command} {fault : Fault}
    (hawaits : forall command, height command <= depth ->
      forall {tutorial tutorial' command' fault}, Owned tutorial [command] ->
      Gives .redo command tutorial (some fault) command' tutorial' ->
      Every (Action.Awaits .redo) command -> Every (Action.Awaits .redo) command')
    (hdepth : heightAll members <= depth) (howned : Owned tutorial members)
    (h : GivesAll .redo members tutorial (some fault) members' tutorial')
    (hmembers : forall member, member ∈ members -> Every (Action.Awaits .redo) member) :
    forall member, member ∈ members' -> Every (Action.Awaits .redo) member := by
  induction members generalizing tutorial tutorial' members' with
  | nil => cases (givesAll_nil_iff.mp h).1
  | cons first rest ih =>
      simp only [heightAll] at hdepth
      rw [List.forall_mem_cons] at hmembers
      rcases givesAll_cons_some_iff.mp h with ⟨first', hfirst, rfl⟩ |
        ⟨first', between, rest', reached, fault', first'', hfirst, hrest, hback, rfl⟩
      · rw [List.forall_mem_cons]
        exact ⟨hawaits first (by omega) howned.head hfirst hmembers.1, hmembers.2⟩
      · have hbetween := howned.gives hfirst
        have hreached : reached = between :=
          atomic_all (fun command _ tutorial howned => reversible howned) (Nat.le_refl _)
            hbetween.tail hrest
        subst hreached
        rcases (reversible howned.head).swings hfirst with ⟨undone, -, hundo⟩
        rcases hback.unique hundo with ⟨rfl, rfl, rfl⟩
        rw [List.forall_mem_cons]
        exact ⟨(hundo.awaits hbetween.head).2, ih (by omega) hbetween.tail hrest hmembers.2⟩

theorem awaits_of_redo_fault {command command' : Command} {fault : Fault}
    (howned : Owned tutorial [command])
    (h : Gives .redo command tutorial (some fault) command' tutorial')
    (hcommand : Every (Action.Awaits .redo) command) : Every (Action.Awaits .redo) command' := by
  induction command generalizing tutorial tutorial' command' fault with
  | action a =>
      rw [(gives_action_some_iff.mp h).2.1]
      exact hcommand
  | group label members ih =>
      rcases gives_group_iff.mp h with ⟨members', hmembers, rfl⟩
      rw [every_group] at hcommand ⊢
      exact awaits_all_of_redo_fault ih (Nat.le_refl _) (Owned.group_iff.mp howned) hmembers
        hcommand

theorem redo_passes_of_exchange {command undone : Command} {reached : LiveTutorial}
    (howned : Owned tutorial [command]) (h : Gives .undo command tutorial none undone tutorial')
    (hcommand : Every Action.IsExchange command)
    (hentities : tutorial.entities.Perm reached.entities) :
    exists command' tutorial', Gives .redo undone reached none command' tutorial' := by
  rcases h.exchange howned hcommand with ⟨hundone, hfits⟩
  have hreached : Every (Action.Fits reached.entities) undone :=
    fun a ha => (hfits a ha).perm hentities
  rcases exchange_passes .redo hundone hreached with ⟨command', tutorial', hredo, -⟩
  exact ⟨command', tutorial', hredo⟩

theorem unchanged_all_iff {depth : Nat} {members members' : List Command} {fault : Fault}
    (hiff : forall command, height command <= depth ->
      forall {tutorial tutorial' command' fault}, Owned tutorial [command] ->
      Gives .undo command tutorial (some fault) command' tutorial' ->
      (tutorial' = tutorial ∧ command' = command ↔ InPlace command tutorial))
    (hdepth : heightAll members <= depth) (howned : Owned tutorial members)
    (h : GivesAll .undo members tutorial (some fault) members' tutorial') :
    tutorial' = tutorial ∧ members' = members ↔ InPlaceAll members tutorial := by
  induction members generalizing tutorial tutorial' members' with
  | nil => cases (givesAll_nil_iff.mp h).1
  | cons first rest ih =>
      simp only [heightAll] at hdepth
      rcases givesAll_cons_some_iff.mp h with ⟨first', hfirst, rfl⟩ |
        ⟨first', between, rest', reached, fault', first'', hfirst, hrest, hback, rfl⟩
      · rw [inPlaceAll_cons_iff, ← hiff first (by omega) howned.head hfirst]
        constructor
        · rintro ⟨htutorial, hmembers⟩
          refine ⟨⟨htutorial, (List.cons.inj hmembers).1⟩, ?_⟩
          intro undone between hother
          cases (hfirst.unique hother).1
        · rintro ⟨⟨htutorial, rfl⟩, -⟩
          exact ⟨htutorial, rfl⟩
      · have hbetween := howned.gives hfirst
        have hreached := (hbetween.givesRest hrest).head
        have hrestIff := ih (by omega) hbetween.tail hrest
        rw [inPlaceAll_cons_of_gives hfirst, ← redo_of_undo_iff howned.head hfirst]
        constructor
        · rintro ⟨rfl, hmembers⟩
          cases hmembers
          cases fault' with
          | none =>
              have heq := undo_of_redo_unique hreached hback hfirst
              subst heq
              exact ⟨hback, hrestIff.mp ⟨rfl, rfl⟩⟩
          | some fault' =>
              -- only exchanges hold the same before and after, and those would have passed
              have heq := (reversible hreached).atomic hback
              subst heq
              have hawaits := hfirst.awaits howned.head
              have hexchange : Every Action.IsExchange first := fun a ha =>
                Action.isExchange_of_awaits
                  (awaits_of_redo_fault hreached hback hawaits.2 a ha) (hawaits.1 a ha)
              rcases redo_passes_of_exchange howned.head hfirst hexchange (List.Perm.refl _) with
                ⟨command', tutorial'', hredo⟩
              cases (hback.unique hredo).1
        · rintro ⟨hredo, hrestPlace⟩
          rcases hrestIff.mpr hrestPlace with ⟨rfl, rfl⟩
          rcases hback.unique hredo with ⟨-, rfl, rfl⟩
          exact ⟨rfl, rfl⟩

theorem unchanged_iff {command command' : Command} {fault : Fault}
    (howned : Owned tutorial [command])
    (h : Gives .undo command tutorial (some fault) command' tutorial') :
    tutorial' = tutorial ∧ command' = command ↔ InPlace command tutorial := by
  induction command generalizing tutorial tutorial' command' fault with
  | action a =>
      rcases gives_action_some_iff.mp h with ⟨hrun, rfl, rfl⟩
      rw [inPlace_action_iff]
      exact ⟨fun _ => Action.inPlace_of_undo_error hrun, fun _ => ⟨rfl, rfl⟩⟩
  | group label members ih =>
      rcases gives_group_iff.mp h with ⟨members', hmembers, rfl⟩
      have hreverse : Owned tutorial members.reverse :=
        (Owned.group_iff.mp howned).perm (List.reverse_perm members)
      have hiff := unchanged_all_iff ih (heightAll_ordered_le .undo members) hreverse hmembers
      rw [inPlace_group_iff, ← show _ ↔ InPlaceAll members.reverse tutorial from hiff]
      simp only [ordered, group.injEq, true_and, List.reverse_eq_iff]

end

end Command
end TutorialKit
