import TutorialKit.CommandLine.Commands

/-!
# Runs of the program

From arguments and surroundings to the task that the program carries out.  Log lines are events of
that task, unless they go to a file.
-/

namespace TutorialKit
namespace CommandLine

structure Surroundings where
  logFilter : Option String := none
  terminal : Bool := false
  deriving DecidableEq

structure Outcome where
  exitCode : Nat
  output : String := ""
  errors : String := ""
  deriving DecidableEq

def version : String := "ktutorial 0.1.0"

/-!
# Logging

Events go to a file or to the standard error stream, as far as the chosen filter lets them through.
-/

structure LogPlan where
  filter : Log.Filter
  appearance : Log.Appearance
  file : Option Path
  span : Option Log.Span

/-- A filter from the surroundings counts if no amount of logging is asked for. -/
def chosenFilter (surroundings : Surroundings) (globals : Globals) : Log.Filter :=
  let usual := Log.Filter.uniform globals.threshold
  if globals.asksForLevel then usual
  else (surroundings.logFilter.bind Log.Filter.ofText?).getD usual

def isColored (surroundings : Surroundings) (globals : Globals) : Bool :=
  match globals.color.getD .auto with
  | .always => true
  | .never => false
  | .auto => globals.logFile.isNone && surroundings.terminal

namespace LogPlan

/-- A span is left out if the filter does not follow it. -/
def ofInvocation (surroundings : Surroundings) (invocation : Invocation) : LogPlan :=
  let globals := invocation.globals
  let filter := chosenFilter surroundings globals
  { filter := filter
    appearance := ⟨globals.layout.getD .full, isColored surroundings globals⟩
    file := globals.logFile
    span := invocation.command.span?.filter filter.follows }

def write (plan : LogPlan) (event : Log.Event) : FileTask String Unit :=
  if plan.filter.admits plan.span event then
    let line := plan.appearance.line plan.span event
    match plan.file with
    | none => FileTask.report line
    | some _ => do
        let _ <- FileTask.request (.appendToLog (Text.Utf8.encodeText line))
        pure ()
  else pure ()

def start (plan : LogPlan) : FileTask String (Except SystemError Unit) :=
  match plan.file with
  | none => pure (.ok ())
  | some path => FileTask.request (.openLog path)

end LogPlan

/-!
# Runs

Whatever goes wrong ends in a message and an exit code.
-/

namespace Outcome

def ofResult : Except CommandError Printed -> Outcome
  | .ok printed => ⟨printed.exitCode, printed.text, ""⟩
  | .error error => ⟨1, "", error.report⟩

def ofLogError (error : SystemError) : Outcome :=
  ⟨1, "", "error: failed to initialize logging: " ++ error.message ++ "\n"⟩

def ofUsageError (error : UsageError) : Outcome :=
  ⟨2, "", "error: " ++ error.message ++ "\n"⟩

end Outcome

def runInvocation (surroundings : Surroundings) (invocation : Invocation) :
    FileTask String Outcome := do
  let plan := LogPlan.ofInvocation surroundings invocation
  match <- plan.start with
  | .error error => pure (.ofLogError error)
  | .ok _ => Outcome.ofResult <$> (invocation.command.task.run).relay plan.write

def run (surroundings : Surroundings) (arguments : List String) : FileTask String Outcome :=
  match Intent.ofArguments arguments with
  | .error error => pure (.ofUsageError error)
  | .ok .showVersion => pure ⟨0, version ++ "\n", ""⟩
  | .ok (.run invocation) => runInvocation surroundings invocation

end CommandLine
end TutorialKit
