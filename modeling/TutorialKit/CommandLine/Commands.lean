import TutorialKit.CommandLine.Options
import TutorialKit.Outline.Listing
import TutorialKit.Storage.Keeping

/-!
# Commands

Every command is a task that ends in what is printed and an exit code.
-/

namespace TutorialKit
namespace CommandLine

inductive CommandError where
  | storage (error : StorageError)
  | format (error : Script.UnknownFormat)
  deriving DecidableEq

namespace CommandError

def report : CommandError -> String
  | storage error =>
      "error: " ++ error.userMessage ++ "\n" ++
        ((error.suggestion.map fun hint => "hint: " ++ hint ++ "\n").getD "")
  | format error => "error: " ++ error.message ++ "\n"

end CommandError

structure Printed where
  text : String
  exitCode : Nat := 0
  deriving DecidableEq

abbrev CommandTask := ExceptT CommandError (FileTask Log.Event)

def stored {α : Type} (task : StorageTask α) : CommandTask α :=
  ExceptT.mk ((fun result => result.mapError .storage) <$> task.run)

def logEvent (level : Log.Level) (message : String) (fields : List (String × String)) :
    CommandTask Unit :=
  ExceptT.lift (FileTask.report ⟨.commands, level, message, fields⟩)

def chosenFormat (text : String) : CommandTask Script.Format :=
  ExceptT.mk (pure ((Script.Format.ofEntry text).mapError .format))

def logWarnings : List String -> CommandTask Unit
  | [] => pure ()
  | message :: rest => do
      logEvent .warn message []
      logWarnings rest

/-- Exports a script beside the tutorial, unless another place is given. -/
def exportScript (input : Path) (output : Option Path) (type : String) : CommandTask Printed := do
  let format <- chosenFormat type
  let tutorial <- stored (Tutorial.load input)
  let target := output.getD (input.withExtension format.extension)
  let script <- stored (tutorial.saveScript format target)
  logWarnings (Script.reported script)
  pure ⟨"Exported " ++ input.text ++ " to " ++ target.text ++ "\n", 0⟩

def problemLines (input : Path) (problems : List String) : String :=
  match problems with
  | [] => input.text ++ ": no problems found\n"
  | _ => String.join (problems.map fun problem => input.text ++ ": " ++ problem ++ "\n")

def check (input : Path) : CommandTask Printed := do
  let tutorial <- stored (Tutorial.load input)
  let script <- stored (tutorial.script default)
  let problems := Script.reported script
  logEvent .info "checked tutorial" [("errors", toString problems.length)]
  pure ⟨problemLines input problems, if problems.isEmpty then 0 else 1⟩

def inspect (input : Path) (json : Bool) : CommandTask Printed := do
  let tutorial <- stored (Tutorial.load input)
  if json then pure ⟨tutorial.outline.toJson.print ++ "\n", 0⟩
  else pure ⟨tutorial.outline.toText, 0⟩

def format (input : Path) (output : Option Path) : CommandTask Printed := do
  let tutorial <- stored (Tutorial.load input)
  let target := output.getD input
  stored (tutorial.save target)
  pure ⟨"Formatted " ++ input.text ++ " into " ++ target.text ++ "\n", 0⟩

def listFormats : Printed :=
  ⟨String.join (Script.Format.all.map fun format => format.entry ++ "\n"), 0⟩

namespace Command

def task : Command -> CommandTask Printed
  | exportScript input output type => CommandLine.exportScript input output type
  | check input => CommandLine.check input
  | inspect input json => CommandLine.inspect input json
  | format input output => CommandLine.format input output
  | listFormats => pure CommandLine.listFormats

def span? : Command -> Option Log.Span
  | exportScript input _ _ => some ⟨.commands, .info, "export", [("input", input.text)]⟩
  | _ => none

end Command

end CommandLine
end TutorialKit
