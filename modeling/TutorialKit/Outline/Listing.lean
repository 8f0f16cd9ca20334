import TutorialKit.Outline
import TutorialKit.Text.Json
import TutorialKit.Text.Table

/-!
# Listings of outlines

An outline as a summary with a table, for people, and as a JSON value, for programs.
-/

namespace TutorialKit

def textOrDash (text : String) : String :=
  if text = "" then "-" else text

namespace ReactionOutline

def triggerCell (reaction : ReactionOutline) : String :=
  reaction.triggerType.literal ++ ": " ++ textOrDash reaction.trigger

def responseCell (reaction : ReactionOutline) : String :=
  reaction.responseType.literal ++ ": " ++ textOrDash reaction.response ++
    (if reaction.nextStepMissing then " (no such step)" else "")

def toJson (reaction : ReactionOutline) : Text.Json :=
  .record [
    ("trigger_type", .text reaction.triggerType.literal),
    ("response_type", .text reaction.responseType.literal),
    ("trigger", .text reaction.trigger),
    ("response", .text reaction.response),
    ("condition_nodes", .count reaction.conditionNodes),
    ("next_step_missing", .flag reaction.nextStepMissing)]

end ReactionOutline

namespace StepOutline

/-- One row for each reaction; the first one also names the step. -/
def rows (step : StepOutline) : List (List String) :=
  match step.reactions with
  | [] => [[textOrDash step.id, step.text, "-", "-"]]
  | first :: others =>
      [textOrDash step.id, step.text, first.triggerCell, first.responseCell] ::
        others.map fun reaction => ["", "", reaction.triggerCell, reaction.responseCell]

def toJson (step : StepOutline) : Text.Json :=
  .record [
    ("id", .text step.id),
    ("text", .text step.text),
    ("reactions", .list (step.reactions.map ReactionOutline.toJson))]

end StepOutline

namespace Outline

def table (outline : Outline) : Text.Table where
  header := ["Step", "Text", "Trigger", "Response"]
  rows := outline.steps.flatMap StepOutline.rows

def summary (outline : Outline) : String :=
  "Steps: " ++ toString outline.steps.length ++
    ", reactions: " ++ toString outline.reactionCount ++
    ", condition nodes: " ++ toString outline.conditionNodeCount

def toText (outline : Outline) : String :=
  "Tutorial: " ++ textOrDash outline.name ++ "\n" ++ outline.summary ++ "\n" ++
    outline.table.render ++ "\n"

def toJson (outline : Outline) : Text.Json :=
  .record [
    ("name", .text outline.name),
    ("description", .text outline.description),
    ("steps", .list (outline.steps.map StepOutline.toJson))]

end Outline

end TutorialKit
