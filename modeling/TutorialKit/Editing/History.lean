import TutorialKit.Editing.Command

/-!
# Histories

A history holds the commands that have been applied to a tutorial and those that have been taken
back and may be applied again.  A mark remembers how many commands were applied when the tutorial
was last saved; it is lost when the commands up to it can no longer be reached.
-/

namespace TutorialKit

/-- `applied` begins with the latest command, `undone` with the next one. -/
structure History where
  applied : List Command := []
  undone : List Command := []
  mark : Option Nat := some 0
  deriving Inhabited

structure Edited where
  tutorial : LiveTutorial
  history : History
  changes : List Change
  answer : Except Fault Bool

namespace History

def index (history : History) : Nat :=
  history.applied.length

def length (history : History) : Nat :=
  history.applied.length + history.undone.length

def isClean (history : History) : Bool :=
  history.mark == some history.index

def undoLabel? (history : History) : Option String :=
  history.applied.head?.map Command.label

def redoLabel? (history : History) : Option String :=
  history.undone.head?.map Command.label

theorem index_le_length (history : History) : history.index <= history.length := by
  simp [index, length]

/-- The mark after the commands beyond `index` have been given up. -/
def markWithin (index : Nat) (mark : Option Nat) : Option Nat :=
  mark.filter (· <= index)

def record (command : Command) (history : History) : History where
  applied := command :: history.applied
  undone := []
  mark := markWithin history.index history.mark

/-- Applies a command and records it, unless it fails. -/
def push (command : Command) (history : History) (tutorial : LiveTutorial) : Edited :=
  let attempt := command.run .redo tutorial
  match attempt.fault with
  | none => ⟨attempt.tutorial, history.record attempt.command, attempt.changes, .ok true⟩
  | some fault => ⟨attempt.tutorial, history, attempt.changes, .error fault⟩

def commit (text : String) (members : List Command) (history : History)
    (tutorial : LiveTutorial) : Edited :=
  match Command.finish? text members with
  | some command => history.push command tutorial
  | none => ⟨tutorial, history, [], .ok false⟩

def undo (history : History) (tutorial : LiveTutorial) : Edited :=
  match history.applied with
  | [] => ⟨tutorial, history, [], .ok false⟩
  | command :: rest =>
      let attempt := command.run .undo tutorial
      match attempt.fault with
      | none =>
          ⟨attempt.tutorial,
            { history with applied := rest, undone := attempt.command :: history.undone },
            attempt.changes, .ok true⟩
      | some fault =>
          ⟨attempt.tutorial, { history with applied := attempt.command :: rest },
            attempt.changes, .error fault⟩

def redo (history : History) (tutorial : LiveTutorial) : Edited :=
  match history.undone with
  | [] => ⟨tutorial, history, [], .ok false⟩
  | command :: rest =>
      let attempt := command.run .redo tutorial
      match attempt.fault with
      | none =>
          ⟨attempt.tutorial,
            { history with applied := attempt.command :: history.applied, undone := rest },
            attempt.changes, .ok true⟩
      | some fault =>
          ⟨attempt.tutorial, { history with undone := attempt.command :: rest },
            attempt.changes, .error fault⟩

def setClean (history : History) : History :=
  { history with mark := some history.index }

def clear (_history : History) : History := {}

end History

end TutorialKit
