import TutorialKit.Script.Export

/-!
# Exporters

An exporter writes a script piece by piece.  It keeps what it has written, how deep lines are
indented, the handlers that wait for the end of the set-up function they belong to, and the names
in use.  It may be used again, whatever it has written before.
-/

namespace TutorialKit
namespace Script

structure Exporter where
  output : String := ""
  level : Nat := 0
  /-- Functions that are written once the set-up function of their step is complete. -/
  pending : List String := []
  scope : Scope := {}
  deriving DecidableEq, Inhabited

namespace Exporter

/-!
# Lines

A line is put behind what has been written before, indented as deep as the exporter is at the time.
-/

def put (text : String) (exporter : Exporter) : Exporter :=
  { exporter with output := exporter.output ++ text }

def line (text : String) (exporter : Exporter) : Exporter :=
  exporter.put (Script.line exporter.level text)

def putCode (code : String) (exporter : Exporter) : Exporter :=
  exporter.put (indentCode exporter.level code)

def write (statement : Statement) (exporter : Exporter) : Exporter :=
  exporter.put (statement.text exporter.level)

def indent (exporter : Exporter) : Exporter :=
  { exporter with level := exporter.level + 1 }

def outdent (exporter : Exporter) : Exporter :=
  { exporter with level := exporter.level - 1 }

/-- A function whose lines are written by `body`. -/
def writeFunction (name parameter : String) (body : Exporter -> Exporter)
    (exporter : Exporter) : Exporter :=
  (body (exporter.line ("function " ++ name ++ "(" ++ parameter ++ ") \x7b")).indent).outdent.line
    "\x7d"

def connect (object signal callee : String) (exporter : Exporter) : Exporter :=
  ((exporter.line ("connect(" ++ object ++ ", \"" ++ signal ++ "(QObject*)\",")).line
    ("        this, \"" ++ callee ++ "(QObject*)\");")).put "\n"

/-- A variable for a name, which counts as one use of the name. -/
def addVariable (name : String) (exporter : Exporter) : String × Exporter :=
  (exporter.scope.variableFor name,
    { exporter with scope := exporter.scope.request name })

/-- A handler has to wait; its lines are indented by one level wherever it is asked for. -/
def addFunction (name code : String) (exporter : Exporter) : Exporter :=
  let body :=
    if code = "" then indentCode 1 (Problem.marker ++ Problem.handlerCode.message ++ "\n")
    else indentCode 1 code
  { exporter with
    pending := exporter.pending ++ ["function " ++ name ++ "() \x7b\n" ++ body ++ "\x7d\n"] }

def flush (exporter : Exporter) : Exporter :=
  { exporter with
    output := exporter.output ++ String.join (exporter.pending.map (· ++ "\n"))
    pending := [] }

/-!
# Conditions

An object is created after those of its children, which are written first.
-/

def writeLeaf (leaf : Leaf) (exporter : Exporter) : Option String × Exporter :=
  match leaf.problem? with
  | some problem => (none, exporter.write (.problem problem))
  | none =>
      let named := exporter.addVariable leaf.objectName
      (some named.1, (named.2.write (.newCondition named.1 leaf.objectKind)).write
        (leaf.assignment named.1))

mutual

def writeCondition (exporter : Exporter) : Condition -> Option String × Exporter
  | .leaf l => exporter.writeLeaf l
  | .composed composition children =>
      let written := writeConditions exporter children
      let named := written.2.addVariable ("waitFor" ++ composition.literal)
      let created := named.2.write (.newCondition named.1 (.composed composition))
      (some named.1,
        written.1.foldl (fun exporter child => exporter.write (.addChild named.1 child)) created)
  | .negation none => (none, exporter.write (.problem .negatedUnset))
  | .negation (some child) =>
      let named := exporter.addVariable "waitForNot"
      let written := writeCondition named.2 child
      let created := (written.2.write .blank).write (.newCondition named.1 .negation)
      (some named.1,
        match written.1 with
        | none => created
        | some negated => created.write (.setNegated named.1 negated))

def writeConditions (exporter : Exporter) : List Condition -> List String × Exporter
  | [] => ([], exporter)
  | condition :: rest =>
      let first := writeCondition exporter condition
      let later := writeConditions (first.2.write .blank) rest
      (first.1.toList ++ later.1, later.2)

end

/-!
# Reactions

Options and conditions are registered as they come; the handlers that they need wait until the
set-up function is complete.
-/

def answer (register : Target -> Statement) (handler : String) (reaction : Reaction)
    (exporter : Exporter) : Exporter :=
  match reaction.response with
  | .nextStep => exporter.write (register (.step reaction.nextStep))
  | .customCode =>
      (exporter.write (register (.handler handler))).addFunction handler reaction.code

def writeReaction (step : String) (reaction : Reaction) (exporter : Exporter) : Exporter :=
  match reaction.problem? with
  | some problem => exporter.write (.problem problem)
  | none =>
      match reaction.trigger, reaction.condition with
      | .optionSelected, _ =>
          let named := exporter.addVariable (Text.lowerCamelCase reaction.option ++ "Option")
          (named.2.write (.newOption named.1 reaction.option)).answer (.addOption named.1)
            (step ++ Text.upperCamelCase reaction.option ++ "OptionSelected") reaction
      | .conditionMet, none => exporter
      | .conditionMet, some condition =>
          let written := exporter.writeCondition condition
          match written.1 with
          | none => written.2
          | some object =>
              written.2.answer (.addCondition object)
                (step ++ Text.upperCamelCase object ++ "ConditionMet") reaction

/-- `closed` says that something follows the last reaction. -/
def writeReactions (step : String) (closed : Bool) (exporter : Exporter) :
    List Reaction -> Exporter
  | [] => exporter
  | reaction :: rest =>
      let first := exporter.writeReaction step reaction
      writeReactions step closed (if closed || !rest.isEmpty then first.write .blank else first)
        rest

/-!
# Steps

Nothing of a step waits any longer when the next one begins.
-/

def writeText (step : Step) (exporter : Exporter) : Exporter :=
  if step.text = "" then exporter.line (Problem.marker ++ Problem.stepText.message)
  else
    exporter.line (step.objectName ++ ".setText(t.i18nc(\"" ++ Step.textContext step.text ++
      "\", " ++ quoted step.text ++ "));")

def writeSetup (step : Step) (exporter : Exporter) : Exporter :=
  if step.setup = "" && step.reactions.isEmpty then exporter
  else
    let name := step.objectName ++ "Setup"
    let written := exporter.writeFunction name "step" fun exporter =>
      (exporter.writeReactions step.objectName (step.setup != "") step.reactions).putCode step.setup
    { (written.connect step.objectName "setup" name).flush with scope := {} }

def writeTearDown (step : Step) (exporter : Exporter) : Exporter :=
  if step.tearDown = "" then exporter
  else
    let name := step.objectName ++ "TearDown"
    (exporter.writeFunction name "step" (putCode step.tearDown)).connect step.objectName
      "tearDown" name

def writeStep (exporter : Exporter) (step : Step) : Exporter :=
  if step.id = "" then (exporter.line (Problem.marker ++ Problem.stepId.message)).put "\n"
  else
    let created := (exporter.line ("//Step " ++ step.id)).line
      (step.objectName ++ " = ktutorial.newStep(" ++ quoted step.id ++ ");")
    let written := (((created.writeText step).put "\n").writeSetup step).writeTearDown step
    (written.line ("tutorial.addStep(" ++ step.objectName ++ ");")).put "\n"

/-!
# Tutorials

The information and the functions of a tutorial come before its steps.
-/

def writeLicense (license : String) (exporter : Exporter) : Exporter :=
  if license = "" then exporter else exporter.put (String.ofList (Block.box license.toList))

def writeDetail (setter value : String) (missing : Problem) (exporter : Exporter) : Exporter :=
  if value = "" then exporter.line (Problem.marker ++ missing.message)
  else
    exporter.line
      ("tutorial.tutorialInformationAsObject()." ++ setter ++ "(t.i18n(" ++ quoted value ++ "));")

def writeInformation (tutorial : Tutorial) (exporter : Exporter) : Exporter :=
  ((exporter.writeDetail "setName" tutorial.name .tutorialName).writeDetail "setDescription"
    tutorial.description .tutorialDescription).put "\n"

def writeOwnFunction (name signal code : String) (exporter : Exporter) : Exporter :=
  if code = "" then exporter
  else (exporter.writeFunction name "tutorial" (putCode code)).connect "tutorial" signal name

def writeHead (tutorial : Tutorial) (exporter : Exporter) : Exporter :=
  let opened := (exporter.writeLicense tutorial.license).put
    "t = Kross.module(\"kdetranslation\");\n\n"
  ((opened.writeInformation tutorial).writeOwnFunction "tutorialSetup" "setup"
    tutorial.setup).writeOwnFunction "tutorialTearDown" "tearDown" tutorial.tearDown

def clear (exporter : Exporter) : Exporter :=
  { exporter with output := "", level := 0, pending := [], scope := {} }

/-- The script of a tutorial, and the exporter to write the next one with. -/
def run (exporter : Exporter) (tutorial : Tutorial) : Exporter × String :=
  let written := tutorial.steps.foldl writeStep (exporter.clear.writeHead tutorial)
  ({ written with output := "" }, written.output)

def runAll (exporter : Exporter) : List Tutorial -> Exporter × List String
  | [] => (exporter, [])
  | tutorial :: rest =>
      let first := exporter.run tutorial
      let later := runAll first.1 rest
      (later.1, first.2 :: later.2)

end Exporter
end Script
end TutorialKit
