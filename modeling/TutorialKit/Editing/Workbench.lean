import TutorialKit.Editing.ConditionEditor
import TutorialKit.Editing.History

/-!
# Workbenches

A workbench is where a tutorial is edited: the open document with its history, steps and reactions
that lie beside it, and commands that have been prepared.  A step or reaction is loose if neither
the document nor a command owns it; it can be reached if it is loose, in the document, or, for a
reaction, in a loose step.
-/

namespace TutorialKit

structure Workbench where
  tutorial : LiveTutorial
  history : History := {}
  looseSteps : List LiveStep := []
  looseReactions : List LiveReaction := []
  prepared : List (String × Command) := []
  watchers : Watchers := {}
  subscriptions : List (Label × Entity × Nat) := []
  conditionSubscriptions : List (Label × Nat) := []
  knownSteps : List StepKey := []
  knownReactions : List ReactionKey := []

inductive BenchError where
  | unknownHandle
  | unknownLabel
  | noCondition
  | fault (fault : Fault)

inductive Notice where
  | document (change : Change)
  | condition (change : ConditionChange)

structure Served (α : Type) where
  bench : Workbench
  notices : List (Label × Notice)
  answer : Except BenchError α

namespace Workbench

/-!
# Steps and reactions

What is known by a name may be loose, in the document, or in a loose step.
-/

/-- The name of a reaction that comes with a step, counted from one. -/
def reactionKey (step : StepKey) (index : Nat) : ReactionKey :=
  ⟨step.name ++ "r" ++ toString (index + 1)⟩

def liveStep (key : StepKey) (step : Step) : LiveStep where
  key := key
  id := step.id
  text := step.text
  setup := step.setup
  tearDown := step.tearDown
  reactions := step.reactions.mapIdx fun index reaction =>
    LiveReaction.ofContent (reactionKey key index) reaction

def liveTutorial (tutorial : Tutorial) : LiveTutorial where
  name := tutorial.name
  description := tutorial.description
  license := tutorial.license
  setup := tutorial.setup
  tearDown := tutorial.tearDown
  steps := tutorial.steps.mapIdx fun index step =>
    liveStep ⟨"s" ++ toString (index + 1)⟩ step

def know (step : LiveStep) (bench : Workbench) : Workbench :=
  { bench with
    knownSteps := step.key :: bench.knownSteps
    knownReactions := step.reactions.map LiveReaction.key ++ bench.knownReactions }

def ofTutorial (tutorial : Tutorial) : Workbench :=
  let opened := liveTutorial tutorial
  opened.steps.foldl (fun bench step => bench.know step) { tutorial := opened }

def knowsStep (key : StepKey) (bench : Workbench) : Bool :=
  bench.knownSteps.contains key

def knowsReaction (key : ReactionKey) (bench : Workbench) : Bool :=
  bench.knownReactions.contains key

def entity? (name : String) (bench : Workbench) : Option Entity :=
  if name = "tutorial" then some .tutorial
  else if bench.knowsStep ⟨name⟩ then some (.step ⟨name⟩)
  else if bench.knowsReaction ⟨name⟩ then some (.reaction ⟨name⟩)
  else none

def looseStep? (key : StepKey) (bench : Workbench) : Option LiveStep :=
  bench.looseSteps.find? fun step => step.key == key

def looseReaction? (key : ReactionKey) (bench : Workbench) : Option LiveReaction :=
  bench.looseReactions.find? fun reaction => reaction.key == key

def dropStep (key : StepKey) (bench : Workbench) : Workbench :=
  { bench with looseSteps := bench.looseSteps.filter fun step => step.key != key }

def dropReaction (key : ReactionKey) (bench : Workbench) : Workbench :=
  { bench with
    looseReactions := bench.looseReactions.filter fun reaction => reaction.key != key }

def step? (key : StepKey) (bench : Workbench) : Option LiveStep :=
  (bench.tutorial.step? key).or (bench.looseStep? key)

def reaction? (key : ReactionKey) (bench : Workbench) : Option LiveReaction :=
  (bench.tutorial.reaction? key).or
    ((bench.looseReaction? key).or
      (bench.looseSteps.findSome? fun step => step.reaction? key))

def updateStep (key : StepKey) (f : LiveStep -> LiveStep) (bench : Workbench) : Workbench :=
  { bench with
    tutorial := bench.tutorial.updateStep key f
    looseSteps := replaceFirst (fun step => step.key == key) f bench.looseSteps }

def updateReaction (key : ReactionKey) (f : LiveReaction -> LiveReaction) (bench : Workbench) :
    Workbench :=
  { bench with
    tutorial := bench.tutorial.updateReaction key f
    looseReactions := replaceFirst (fun reaction => reaction.key == key) f bench.looseReactions
    looseSteps := replaceFirst (fun step => step.hasReaction key)
      (fun step => step.updateReaction key f) bench.looseSteps }

/-!
# Answers

An answer comes with notices for those who listen to what has changed.
-/

variable {α : Type}

def reply (answer : α) (bench : Workbench) : Served α :=
  ⟨bench, [], .ok answer⟩

def refuse (error : BenchError) (bench : Workbench) : Served α :=
  ⟨bench, [], .error error⟩

def violate (violation : Violation) (bench : Workbench) : Served α :=
  bench.refuse (.fault (.violated violation))

def documentNotices (changes : List Change) (bench : Workbench) : List (Label × Notice) :=
  (bench.watchers.deliver changes).map fun notice => (notice.1, .document notice.2)

def report (changes : List Change) (answer : Except BenchError α) (bench : Workbench) : Served α :=
  ⟨bench, bench.documentNotices changes, answer⟩

/-!
# Direct edits

These edits go past the history.
-/

def createStep (key : StepKey) (step : Step) (bench : Workbench) : Served Unit :=
  let created := liveStep key step
  ({ bench with looseSteps := created :: bench.looseSteps }.know created).reply ()

def createReaction (key : ReactionKey) (reaction : Reaction) (bench : Workbench) : Served Unit :=
  { bench with
    looseReactions := LiveReaction.ofContent key reaction :: bench.looseReactions
    knownReactions := key :: bench.knownReactions }.reply ()

/-- Puts a loose step into the tutorial, at the end if no index is given.  It is lost if it does
not fit. -/
def insertStep (key : StepKey) (index : Option Nat) (bench : Workbench) : Served Unit :=
  match bench.looseStep? key with
  | none => bench.refuse .unknownHandle
  | some step =>
      let index := index.getD bench.tutorial.steps.length
      let bench := bench.dropStep key
      match bench.tutorial.insertStep index step with
      | .error violation => bench.violate violation
      | .ok tutorial =>
          { bench with tutorial := tutorial }.report [.stepAdded key index] (.ok ())

def removeStep (key : StepKey) (bench : Workbench) : Served Unit :=
  if bench.knowsStep key then
    match bench.tutorial.removeStep key with
    | .error violation => bench.violate violation
    | .ok (step, tutorial) =>
        { bench with
          tutorial := tutorial
          looseSteps := step :: bench.looseSteps }.report [.stepRemoved key] (.ok ())
  else bench.refuse .unknownHandle

/-- Puts a loose reaction into a step that can be reached.  It is lost if it does not fit. -/
def insertReaction (stepKey : StepKey) (key : ReactionKey) (index : Option Nat)
    (bench : Workbench) : Served Unit :=
  match bench.step? stepKey, bench.looseReaction? key with
  | some step, some reaction =>
      let index := index.getD step.reactions.length
      let bench := bench.dropReaction key
      match step.insertReaction index reaction with
      | .error violation => bench.violate violation
      | .ok changed =>
          (bench.updateStep stepKey fun _ => changed).report
            [.reactionAdded stepKey key index] (.ok ())
  | _, _ => bench.refuse .unknownHandle

def removeReaction (stepKey : StepKey) (key : ReactionKey) (bench : Workbench) : Served Unit :=
  match bench.step? stepKey with
  | none => bench.refuse .unknownHandle
  | some step =>
      if bench.knowsReaction key then
        match step.removeReaction key with
        | .error violation => bench.violate violation
        | .ok (reaction, changed) =>
            let bench := bench.updateStep stepKey fun _ => changed
            { bench with looseReactions := reaction :: bench.looseReactions }.report
              [.reactionRemoved stepKey key] (.ok ())
      else bench.refuse .unknownHandle

def setTutorial (field : TutorialField) (text : String) (bench : Workbench) : Served String :=
  let tutorial := bench.tutorial.set field text
  { bench with tutorial := tutorial }.report [.tutorialData] (.ok tutorial.content.id)

def setStep (key : StepKey) (field : StepField) (text : String) (bench : Workbench) :
    Served Unit :=
  match bench.step? key with
  | none => bench.refuse .unknownHandle
  | some _ => (bench.updateStep key fun step => step.set field text).report [.stepData key] (.ok ())

def setReaction (key : ReactionKey) (value : ReactionValue) (bench : Workbench) :
    Served ReactionValue :=
  match bench.reaction? key with
  | none => bench.refuse .unknownHandle
  | some reaction =>
      (bench.updateReaction key fun reaction => (reaction.exchange value).1).report
        [.reactionData key] (.ok (reaction.exchange value).2)

def editCondition (key : ReactionKey) (path : List Nat) (request : ConditionRequest)
    (bench : Workbench) : Served ConditionAnswer :=
  match bench.reaction? key with
  | none => bench.refuse .unknownHandle
  | some reaction =>
      match reaction.condition with
      | none => bench.refuse .noCondition
      | some condition =>
          let (editor, notices, answer) :=
            ConditionEditor.serve path request ⟨condition, bench.conditionSubscriptions⟩
          let bench := bench.updateReaction key fun reaction =>
            { reaction with condition := some editor.condition }
          ⟨{ bench with conditionSubscriptions := editor.subscriptions },
            notices.map fun notice => (notice.1, .condition notice.2), .ok answer⟩

/-!
# Listening

Whoever can reach something may listen to it, under a label.
-/

def canReach (entity : Entity) (bench : Workbench) : Bool :=
  match entity with
  | .tutorial => true
  | .step key => (bench.step? key).isSome
  | .reaction key => (bench.reaction? key).isSome

/-- Answers with the number of listeners. -/
def observe (entity : Entity) (label : Label) (bench : Workbench) : Served Nat :=
  if bench.canReach entity then
    let id := (bench.watchers.registry entity).nextId
    let watchers := bench.watchers.subscribe entity label
    { bench with
      watchers := watchers
      subscriptions := (label, entity, id) :: bench.subscriptions }.reply
        (watchers.registry entity).size
  else bench.refuse .unknownHandle

/-- Cancels the last subscription under a label; answers whether it was still there. -/
def unobserve (label : Label) (bench : Workbench) : Served Bool :=
  match bench.subscriptions.lookup label with
  | none => bench.refuse .unknownLabel
  | some (entity, id) =>
      if bench.canReach entity then
        { bench with watchers := bench.watchers.unsubscribe entity id }.reply
          ((bench.watchers.registry entity).isSubscribed id)
      else bench.refuse .unknownHandle

/-!
# Commands

A command is built from the names of what it works on; what it is to own is taken from the bench.
-/

inductive Order where
  | setTutorial (field : TutorialField) (text : String)
  | setStep (key : StepKey) (field : StepField) (text : String)
  | setReaction (key : ReactionKey) (value : ReactionValue)
  | addStep (key : StepKey) (index : Option Nat)
  | removeStep (key : StepKey)
  | addReaction (step : StepKey) (key : ReactionKey) (index : Option Nat)
  | removeReaction (step : StepKey) (key : ReactionKey)
  | group (members : List Order) (label : Option String)
  | prepared (name : String)
  deriving Inhabited

def groupCommand? (label : Option String) (members : List Command) : Option Command :=
  match label with
  | none => some (.group "" members)
  | some label => Command.finish? label members

mutual

/-- Builds a command; loose entities that it is to own are taken from the bench. -/
def build (bench : Workbench) : Order -> Workbench × Option Command
  | .setTutorial field text => (bench, some (.action (.setTutorial field text)))
  | .setStep key field text =>
      (bench, if bench.knowsStep key then some (.action (.setStep key field text)) else none)
  | .setReaction key value =>
      (bench, if bench.knowsReaction key then some (.action (.setReaction key value)) else none)
  | .addStep key index =>
      match bench.looseStep? key with
      | none => (bench, none)
      | some step => (bench.dropStep key, some (.action (.addStep key index (some step))))
  | .removeStep key =>
      (bench, if bench.knowsStep key then some (.action (.removeStep key 0 none)) else none)
  | .addReaction step key index =>
      if bench.knowsStep step then
        match bench.looseReaction? key with
        | none => (bench, none)
        | some reaction =>
            (bench.dropReaction key,
              some (.action (.addReaction step key index (some reaction))))
      else (bench, none)
  | .removeReaction step key =>
      (bench,
        if bench.knowsStep step && bench.knowsReaction key then
          some (.action (.removeReaction step key 0 none))
        else none)
  | .group members label =>
      match buildAll bench members with
      | (bench, none) => (bench, none)
      | (bench, some commands) => (bench, groupCommand? label commands)
  | .prepared name =>
      match bench.prepared.lookup name with
      | none => (bench, none)
      | some command =>
          ({ bench with prepared := bench.prepared.filter fun entry => entry.1 != name },
            some command)

def buildAll (bench : Workbench) : List Order -> Workbench × Option (List Command)
  | [] => (bench, some [])
  | order :: rest =>
      match build bench order with
      | (bench, none) => (bench, none)
      | (bench, some command) =>
          match buildAll bench rest with
          | (bench, none) => (bench, none)
          | (bench, some commands) => (bench, some (command :: commands))

end

def adopt (edited : Edited) (bench : Workbench) : Served Bool :=
  { bench with
    tutorial := edited.tutorial
    history := edited.history }.report edited.changes (edited.answer.mapError .fault)

def push (order : Order) (bench : Workbench) : Served Bool :=
  match build bench order with
  | (bench, none) => bench.refuse .unknownHandle
  | (bench, some command) => bench.adopt (bench.history.push command bench.tutorial)

def commit (label : String) (orders : List Order) (bench : Workbench) : Served Bool :=
  match buildAll bench orders with
  | (bench, none) => bench.refuse .unknownHandle
  | (bench, some commands) => bench.adopt (bench.history.commit label commands bench.tutorial)

def undo (bench : Workbench) : Served Bool :=
  bench.adopt (bench.history.undo bench.tutorial)

def redo (bench : Workbench) : Served Bool :=
  bench.adopt (bench.history.redo bench.tutorial)

def setClean (bench : Workbench) : Served Unit :=
  { bench with history := bench.history.setClean }.reply ()

def clear (bench : Workbench) : Served Unit :=
  { bench with history := bench.history.clear }.reply ()

def prepare (name : String) (order : Order) (bench : Workbench) : Served Command :=
  match build bench order with
  | (bench, none) => bench.refuse .unknownHandle
  | (bench, some command) =>
      { bench with prepared := (name, command) :: bench.prepared.filter fun entry =>
          entry.1 != name }.reply command

/-- Runs a prepared command on the tutorial, past the history. -/
def runPrepared (direction : Direction) (name : String) (bench : Workbench) : Served Unit :=
  match bench.prepared.lookup name with
  | none => bench.refuse .unknownHandle
  | some command =>
      let attempt := command.run direction bench.tutorial
      let prepared := bench.prepared.map fun entry =>
        if entry.1 == name then (name, attempt.command) else entry
      { bench with tutorial := attempt.tutorial, prepared := prepared }.report attempt.changes
        (match attempt.fault with
          | none => .ok ()
          | some fault => .error (.fault fault))

end Workbench

end TutorialKit
