import TutorialKit.Script.Problem
import TutorialKit.Text.Lines

/-!
# Problems found in a script

Every line that begins with the marker, white space aside, reports a problem; the rest of the line
is its message.
-/

namespace TutorialKit
namespace Script

def dropStart? (start : List Char) (cs : List Char) : Option (List Char) :=
  if start.isPrefixOf cs then some (cs.drop start.length) else none

def reportedIn (line : List Char) : Option (List Char) :=
  dropStart? Problem.marker.toList (Text.trimStart line)

def reported (script : String) : List String :=
  ((Text.linesOf script.toList).filterMap reportedIn).map String.ofList

/-- How many times `pattern` occurs in a text, overlaps aside. -/
def occurrencesFrom (pattern : List Char) (skip : Nat) : List Char -> Nat
  | [] => 0
  | c :: rest =>
      if skip > 0 then occurrencesFrom pattern (skip - 1) rest
      else if pattern.isPrefixOf (c :: rest) then
        1 + occurrencesFrom pattern (pattern.length - 1) rest
      else occurrencesFrom pattern 0 rest

def markerCount (script : String) : Nat :=
  occurrencesFrom Problem.marker.toList 0 script.toList

end Script
end TutorialKit
