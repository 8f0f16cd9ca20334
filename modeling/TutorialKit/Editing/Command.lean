import TutorialKit.Editing.Action

/-!
# Commands

A command is an action or a group of commands that is run as one.  A group runs its members in
order, and in the opposite order when it is taken back.  If a member fails, those that have run are
run the other way, the last one first, and the failure is passed on; what fails meanwhile is not
looked at.
-/

namespace TutorialKit

inductive Command where
  | action (action : Action)
  | group (label : String) (members : List Command)

structure Attempt (γ : Type) where
  tutorial : LiveTutorial
  command : γ
  changes : List Change
  fault : Option Fault

namespace Attempt

variable {γ δ : Type}

def map (f : γ -> δ) (attempt : Attempt γ) : Attempt δ where
  tutorial := attempt.tutorial
  command := f attempt.command
  changes := attempt.changes
  fault := attempt.fault

end Attempt

namespace Command

def label : Command -> String
  | action a => a.label
  | group text _ => text

mutual

/-- The number of groups inside one another. -/
def height : Command -> Nat
  | action _ => 0
  | group _ members => 1 + heightAll members

def heightAll : List Command -> Nat
  | [] => 0
  | command :: rest => max (height command) (heightAll rest)

end

/-!
# Running

Members are run one after the other, and those that have run are run the other way after a failure.
-/

def runAction (direction : Direction) (a : Action) (tutorial : LiveTutorial) : Attempt Command :=
  match a.run direction tutorial with
  | .ok done => ⟨done.tutorial, action done.action, done.changes, none⟩
  | .error fault => ⟨tutorial, action a, [], some fault⟩

def runSequence (run : Direction -> Command -> LiveTutorial -> Attempt Command)
    (direction : Direction) : List Command -> LiveTutorial -> Attempt (List Command)
  | [], tutorial => ⟨tutorial, [], [], none⟩
  | command :: rest, tutorial =>
      let first := run direction command tutorial
      match first.fault with
      | some fault => ⟨first.tutorial, first.command :: rest, first.changes, some fault⟩
      | none =>
          let later := runSequence run direction rest first.tutorial
          match later.fault with
          | none =>
              ⟨later.tutorial, first.command :: later.command, first.changes ++ later.changes,
                none⟩
          | some fault =>
              let back := run direction.opposite first.command later.tutorial
              ⟨back.tutorial, back.command :: later.command,
                first.changes ++ later.changes ++ back.changes, some fault⟩

def ordered (direction : Direction) (members : List Command) : List Command :=
  match direction with
  | .redo => members
  | .undo => members.reverse

/-- Runs a command with groups inside one another down to `depth`. -/
def runAt (depth : Nat) (direction : Direction) (command : Command) (tutorial : LiveTutorial) :
    Attempt Command :=
  match depth, command with
  | _, action a => runAction direction a tutorial
  | 0, group text members => ⟨tutorial, group text members, [], none⟩
  | depth + 1, group text members =>
      (runSequence (runAt depth) direction (ordered direction members) tutorial).map
        fun members => group text (ordered direction members)

def run (direction : Direction) (command : Command) (tutorial : LiveTutorial) : Attempt Command :=
  runAt command.height direction command tutorial

/-!
# Groups that are finished

Without members there is nothing to do, and a single member gives the group its label.
-/

def finish? (text : String) (members : List Command) : Option Command :=
  match members with
  | [] => none
  | [only] => some (group only.label members)
  | _ => some (group text members)

end Command

end TutorialKit
