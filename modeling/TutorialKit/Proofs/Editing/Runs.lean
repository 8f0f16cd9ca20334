import TutorialKit.Editing.Command
import TutorialKit.Proofs.Editing.Moves

/-!
# Runs of commands

What running a command leads to, as equations and relations that leave out how deep groups are
nested and what is reported: a group is run by running its members one after the other.
-/

namespace TutorialKit
namespace Command

@[simp] theorem ordered_ordered (direction : Direction) (members : List Command) :
    ordered direction (ordered direction members) = members := by
  cases direction <;> simp [ordered]

@[simp] theorem mem_ordered {direction : Direction} {command : Command}
    {members : List Command} : command ∈ ordered direction members ↔ command ∈ members := by
  cases direction <;> simp [ordered]

theorem ordered_perm (direction : Direction) (members : List Command) :
    (ordered direction members).Perm members := by
  cases direction with
  | redo => exact List.Perm.refl members
  | undo => exact List.reverse_perm members

/-!
# Depth

Running does not make groups deeper, so the depth that a run is given is enough for its members and
for whatever is run the other way.
-/

theorem heightAll_le_iff {members : List Command} {depth : Nat} :
    heightAll members <= depth ↔ forall member, member ∈ members -> height member <= depth := by
  induction members with
  | nil => simp [heightAll]
  | cons first rest ih => rw [heightAll, Nat.max_le, ih, List.forall_mem_cons]

theorem heightAll_ordered_le (direction : Direction) (members : List Command) :
    heightAll (ordered direction members) <= heightAll members := by
  rw [heightAll_le_iff]
  intro member hmember
  exact heightAll_le_iff.mp (Nat.le_refl _) member (mem_ordered.mp hmember)

@[elab_as_elim, induction_eliminator]
theorem inductHeight {motive : Command -> Prop} (action : forall a, motive (.action a))
    (group : forall label members,
      (forall command, height command <= heightAll members -> motive command) ->
      motive (.group label members)) (command : Command) : motive command := by
  have hall : forall depth command, height command <= depth -> motive command := by
    intro depth
    induction depth with
    | zero =>
        intro command h
        cases command with
        | action a => exact action a
        | group label members => simp [height] at h
    | succ depth ih =>
        intro command h
        cases command with
        | action a => exact action a
        | group label members =>
            apply group
            intro other hother
            apply ih
            simp only [height] at h
            omega
  exact hall (height command) command (Nat.le_refl _)

theorem runSequence_forall {P : Command -> Prop}
    {run : Direction -> Command -> LiveTutorial -> Attempt Command}
    (hrun : forall direction command tutorial, P command ->
      P (run direction command tutorial).command)
    (direction : Direction) {members : List Command} (tutorial : LiveTutorial)
    (h : forall member, member ∈ members -> P member) :
    forall member, member ∈ (runSequence run direction members tutorial).command ->
      P member := by
  induction members generalizing tutorial with
  | nil => simp [runSequence]
  | cons first rest ih =>
      have hfirst := hrun direction first tutorial (h first List.mem_cons_self)
      have hrest : forall member, member ∈ rest -> P member :=
        fun member hmember => h member (List.mem_cons_of_mem first hmember)
      have hlater := ih (run direction first tutorial).tutorial hrest
      rw [runSequence]
      cases hfault : (run direction first tutorial).fault with
      | some fault =>
          simp only [List.forall_mem_cons]
          exact ⟨hfirst, hrest⟩
      | none =>
          simp only
          cases (runSequence run direction rest (run direction first tutorial).tutorial).fault with
          | none =>
              simp only [List.forall_mem_cons]
              exact ⟨hfirst, hlater⟩
          | some fault =>
              simp only [List.forall_mem_cons]
              exact ⟨hrun _ _ _ hfirst, hlater⟩

theorem runSequence_congr {P : Command -> Prop}
    {run run' : Direction -> Command -> LiveTutorial -> Attempt Command}
    (hrun : forall direction command tutorial, P command ->
      P (run direction command tutorial).command)
    (heq : forall direction command tutorial, P command ->
      run direction command tutorial = run' direction command tutorial)
    (direction : Direction) {members : List Command} (tutorial : LiveTutorial)
    (h : forall member, member ∈ members -> P member) :
    runSequence run direction members tutorial = runSequence run' direction members tutorial := by
  induction members generalizing tutorial with
  | nil => rfl
  | cons first rest ih =>
      have hfirst := h first List.mem_cons_self
      have hrest : forall member, member ∈ rest -> P member :=
        fun member hmember => h member (List.mem_cons_of_mem first hmember)
      have hback := fun tutorial' => heq direction.opposite
        (run direction first tutorial).command tutorial' (hrun direction first tutorial hfirst)
      rw [heq direction first tutorial hfirst] at hback
      simp only [runSequence, heq direction first tutorial hfirst, ih _ hrest, hback]

theorem height_runAt_le (depth : Nat) {limit : Nat} (direction : Direction) {command : Command}
    (tutorial : LiveTutorial) (h : height command <= limit) :
    height (runAt depth direction command tutorial).command <= limit := by
  induction depth generalizing direction command tutorial limit with
  | zero =>
      cases command with
      | action a =>
          rw [runAt, runAction]
          cases a.run direction tutorial <;> simp [height]
      | group label members => exact h
  | succ depth ih =>
      cases command with
      | action a =>
          rw [runAt, runAction]
          cases a.run direction tutorial <;> simp [height]
      | group label members =>
          cases limit with
          | zero => simp [height] at h
          | succ limit =>
              have hmembers : forall member, member ∈ ordered direction members ->
                  height member <= limit := by
                intro member hmember
                apply heightAll_le_iff.mp _ member (mem_ordered.mp hmember)
                simp only [height] at h
                omega
              have hrun := runSequence_forall (P := fun command => height command <= limit)
                (fun direction command tutorial => ih direction tutorial) direction tutorial
                hmembers
              have hall : heightAll (ordered direction (runSequence (runAt depth) direction
                  (ordered direction members) tutorial).command) <= limit := by
                rw [heightAll_le_iff]
                exact fun member hmember => hrun member (mem_ordered.mp hmember)
              simp only [runAt, Attempt.map, height]
              omega

theorem runAt_succ {depth : Nat} (direction : Direction) {command : Command}
    (tutorial : LiveTutorial) (h : height command <= depth) :
    runAt (depth + 1) direction command tutorial = runAt depth direction command tutorial := by
  induction depth generalizing direction command tutorial with
  | zero =>
      cases command with
      | action a => rfl
      | group label members => simp [height] at h
  | succ depth ih =>
      cases command with
      | action a => rfl
      | group label members =>
          have hmembers : forall member, member ∈ ordered direction members ->
              height member <= depth := by
            intro member hmember
            apply heightAll_le_iff.mp _ member (mem_ordered.mp hmember)
            simp only [height] at h
            omega
          have hsequence := runSequence_congr
            (P := fun command => height command <= depth)
            (fun direction command tutorial => height_runAt_le (depth + 1) direction
              tutorial)
            (fun direction command tutorial hcommand => ih direction tutorial hcommand)
            direction tutorial hmembers
          rw [runAt, runAt, hsequence]

theorem runAt_of_height_le {depth : Nat} (direction : Direction) {command : Command}
    (tutorial : LiveTutorial) (h : height command <= depth) :
    runAt depth direction command tutorial = run direction command tutorial := by
  rcases Nat.exists_eq_add_of_le h with ⟨extra, rfl⟩
  induction extra with
  | zero => rfl
  | succ extra ih =>
      rw [← Nat.add_assoc, runAt_succ direction tutorial (by omega), ih (by omega)]

/-!
# Equations

An action is run by itself, and a group by running its members in order.
-/

theorem run_action (direction : Direction) (a : Action) (tutorial : LiveTutorial) :
    run direction (action a) tutorial = runAction direction a tutorial := rfl

theorem run_group (direction : Direction) (label : String) (members : List Command)
    (tutorial : LiveTutorial) :
    run direction (group label members) tutorial =
      (runSequence run direction (ordered direction members) tutorial).map
        fun members => group label (ordered direction members) := by
  have hmembers : forall member, member ∈ ordered direction members ->
      height member <= heightAll members :=
    fun member hmember => heightAll_le_iff.mp (Nat.le_refl _) member (mem_ordered.mp hmember)
  have hsequence := runSequence_congr (P := fun command => height command <= heightAll members)
    (fun direction command tutorial => height_runAt_le (heightAll members) direction
      tutorial)
    (fun direction command tutorial hcommand => runAt_of_height_le direction tutorial hcommand)
    direction tutorial hmembers
  rw [run, height, Nat.add_comm, runAt, hsequence]

/-!
# Outcomes

`Gives` says what a run of a command ends with: the fault if there is one, and the command and the
tutorial after it.  `GivesAll` says the same of commands that are run one after the other.
-/

def Gives (direction : Direction) (command : Command) (tutorial : LiveTutorial)
    (fault : Option Fault) (command' : Command) (tutorial' : LiveTutorial) : Prop :=
  exists changes, run direction command tutorial = ⟨tutorial', command', changes, fault⟩

def GivesAll (direction : Direction) (members : List Command) (tutorial : LiveTutorial)
    (fault : Option Fault) (members' : List Command) (tutorial' : LiveTutorial) : Prop :=
  exists changes,
    runSequence run direction members tutorial = ⟨tutorial', members', changes, fault⟩

variable {direction : Direction} {tutorial tutorial' : LiveTutorial}

theorem gives_run (direction : Direction) (command : Command) (tutorial : LiveTutorial) :
    Gives direction command tutorial (run direction command tutorial).fault
      (run direction command tutorial).command (run direction command tutorial).tutorial :=
  ⟨_, rfl⟩

theorem Gives.run {command command' : Command} {fault : Option Fault}
    (h : Gives direction command tutorial fault command' tutorial') :
    (run direction command tutorial).fault = fault ∧
      (run direction command tutorial).command = command' ∧
      (run direction command tutorial).tutorial = tutorial' := by
  rcases h with ⟨changes, h⟩
  rw [h]
  exact ⟨rfl, rfl, rfl⟩

theorem Gives.unique {command command' command'' : Command} {fault fault' : Option Fault}
    {tutorial'' : LiveTutorial} (h : Gives direction command tutorial fault command' tutorial')
    (h' : Gives direction command tutorial fault' command'' tutorial'') :
    fault = fault' ∧ command' = command'' ∧ tutorial' = tutorial'' := by
  rcases h.run with ⟨rfl, rfl, rfl⟩
  exact h'.run

theorem GivesAll.unique {members members' members'' : List Command} {fault fault' : Option Fault}
    {tutorial'' : LiveTutorial}
    (h : GivesAll direction members tutorial fault members' tutorial')
    (h' : GivesAll direction members tutorial fault' members'' tutorial'') :
    fault = fault' ∧ members' = members'' ∧ tutorial' = tutorial'' := by
  rcases h with ⟨changes, h⟩
  rcases h' with ⟨changes', h'⟩
  rw [h] at h'
  cases h'
  exact ⟨rfl, rfl, rfl⟩

theorem Gives.height_le {command command' : Command} {fault : Option Fault}
    (h : Gives direction command tutorial fault command' tutorial') :
    height command' <= height command := by
  rw [← h.run.2.1]
  exact height_runAt_le _ direction tutorial (Nat.le_refl _)

theorem gives_action_none_iff {a : Action} {command' : Command} :
    Gives direction (action a) tutorial none command' tutorial' ↔
      exists a' changes, a.run direction tutorial = .ok ⟨tutorial', a', changes⟩ ∧
        command' = action a' := by
  unfold Gives
  rw [run_action, runAction]
  constructor
  · rintro ⟨changes, h⟩
    cases hrun : a.run direction tutorial with
    | error fault =>
        rw [hrun] at h
        cases h
    | ok done =>
        rw [hrun] at h
        cases h
        exact ⟨done.action, done.changes, rfl, rfl⟩
  · rintro ⟨a', changes, hrun, rfl⟩
    rw [hrun]
    exact ⟨changes, rfl⟩

theorem gives_action_some_iff {a : Action} {command' : Command} {fault : Fault} :
    Gives direction (action a) tutorial (some fault) command' tutorial' ↔
      a.run direction tutorial = .error fault ∧ command' = action a ∧ tutorial' = tutorial := by
  unfold Gives
  rw [run_action, runAction]
  constructor
  · rintro ⟨changes, h⟩
    cases hrun : a.run direction tutorial with
    | error fault =>
        rw [hrun] at h
        cases h
        exact ⟨rfl, rfl, rfl⟩
    | ok done =>
        rw [hrun] at h
        cases h
  · rintro ⟨hrun, rfl, rfl⟩
    rw [hrun]
    exact ⟨[], rfl⟩

theorem gives_group_iff {label : String} {members : List Command} {fault : Option Fault}
    {command' : Command} :
    Gives direction (group label members) tutorial fault command' tutorial' ↔
      exists members', GivesAll direction (ordered direction members) tutorial fault members'
        tutorial' ∧ command' = group label (ordered direction members') := by
  unfold Gives GivesAll
  rw [run_group]
  constructor
  · rintro ⟨changes, h⟩
    cases hsequence : runSequence Command.run direction (ordered direction members) tutorial
    rw [hsequence] at h
    cases h
    exact ⟨_, ⟨_, rfl⟩, rfl⟩
  · rintro ⟨members', ⟨changes, h⟩, rfl⟩
    rw [h]
    exact ⟨changes, rfl⟩

theorem givesAll_nil_iff {fault : Option Fault} {members' : List Command} :
    GivesAll direction [] tutorial fault members' tutorial' ↔
      fault = none ∧ members' = [] ∧ tutorial' = tutorial := by
  unfold GivesAll
  rw [runSequence]
  constructor
  · rintro ⟨changes, h⟩
    cases h
    exact ⟨rfl, rfl, rfl⟩
  · rintro ⟨rfl, rfl, rfl⟩
    exact ⟨[], rfl⟩

theorem givesAll_cons_none_iff {first : Command} {rest members' : List Command} :
    GivesAll direction (first :: rest) tutorial none members' tutorial' ↔
      exists first' between rest', Gives direction first tutorial none first' between ∧
        GivesAll direction rest between none rest' tutorial' ∧ members' = first' :: rest' := by
  unfold GivesAll Gives
  rw [runSequence]
  constructor
  · rintro ⟨changes, h⟩
    cases hfirst : Command.run direction first tutorial with
    | mk between first' changes fault =>
        cases fault with
        | some fault =>
            rw [hfirst] at h
            cases h
        | none =>
            cases hrest : runSequence Command.run direction rest between with
            | mk last rest' changes fault =>
                simp only [hfirst, hrest] at h
                cases fault with
                | some fault => cases h
                | none =>
                    cases h
                    exact ⟨first', between, rest', ⟨_, rfl⟩, ⟨_, hrest⟩, rfl⟩
  · rintro ⟨first', between, rest', ⟨changes, hfirst⟩, ⟨changes', hrest⟩, rfl⟩
    simp only [hfirst, hrest]
    exact ⟨_, rfl⟩

theorem givesAll_cons_some_iff {first : Command} {rest members' : List Command} {fault : Fault} :
    GivesAll direction (first :: rest) tutorial (some fault) members' tutorial' ↔
      (exists first', Gives direction first tutorial (some fault) first' tutorial' ∧
        members' = first' :: rest) ∨
      exists first' between rest' reached fault' first'',
        Gives direction first tutorial none first' between ∧
          GivesAll direction rest between (some fault) rest' reached ∧
          Gives direction.opposite first' reached fault' first'' tutorial' ∧
          members' = first'' :: rest' := by
  unfold GivesAll Gives
  rw [runSequence]
  constructor
  · rintro ⟨changes, h⟩
    cases hfirst : Command.run direction first tutorial with
    | mk between first' changes fault =>
        cases fault with
        | some fault =>
            rw [hfirst] at h
            cases h
            exact Or.inl ⟨_, ⟨_, rfl⟩, rfl⟩
        | none =>
            cases hrest : runSequence Command.run direction rest between with
            | mk last rest' changes fault =>
                simp only [hfirst, hrest] at h
                cases fault with
                | none => cases h
                | some fault =>
                    cases h
                    exact Or.inr ⟨_, _, _, _, _, _, ⟨_, rfl⟩, ⟨_, hrest⟩, ⟨_, rfl⟩, rfl⟩
  · rintro (⟨first', ⟨changes, hfirst⟩, rfl⟩ |
      ⟨first', between, rest', reached, fault', first'', ⟨changes, hfirst⟩, ⟨changes', hrest⟩,
        ⟨changes'', hback⟩, rfl⟩)
    · simp only [hfirst]
      exact ⟨_, rfl⟩
    · simp only [hfirst, hrest, hback]
      exact ⟨_, rfl⟩

theorem givesAll_append_none_iff {first rest members' : List Command} :
    GivesAll direction (first ++ rest) tutorial none members' tutorial' ↔
      exists first' between rest', GivesAll direction first tutorial none first' between ∧
        GivesAll direction rest between none rest' tutorial' ∧ members' = first' ++ rest' := by
  induction first generalizing tutorial members' with
  | nil =>
      simp only [List.nil_append]
      constructor
      · intro h
        exact ⟨[], tutorial, members', givesAll_nil_iff.mpr ⟨rfl, rfl, rfl⟩, h, rfl⟩
      · rintro ⟨first', between, rest', hfirst, hrest, rfl⟩
        rcases givesAll_nil_iff.mp hfirst with ⟨-, rfl, rfl⟩
        exact hrest
  | cons command first ih =>
      simp only [List.cons_append, givesAll_cons_none_iff, ih]
      constructor
      · rintro ⟨command', between, tail', hcommand,
          ⟨first', between', rest', hfirst, hrest, rfl⟩, rfl⟩
        exact ⟨command' :: first', between', rest',
          ⟨command', between, first', hcommand, hfirst, rfl⟩, hrest, rfl⟩
      · rintro ⟨_, between', rest', ⟨command', between, first', hcommand, hfirst, rfl⟩, hrest,
          rfl⟩
        exact ⟨command', between, first' ++ rest', hcommand,
          ⟨first', between', rest', hfirst, hrest, rfl⟩, rfl⟩

end Command
end TutorialKit
