import TutorialKit.Text.Blank
import TutorialKit.Text.Pieces

/-!
# Lines of a text

A line ends at a line feed, which may follow a carriage return; neither belongs to the line.
After the last line break there is another line only if it holds something.
-/

namespace TutorialKit
namespace Text

/-- Removes the carriage return that a line break began with. -/
def dropReturn (line : List Char) : List Char :=
  if line.getLast? = some '\r' then line.dropLast else line

/-- The pieces of a text between its line feeds as lines: the last one has no line break. -/
def closeLines : List (List Char) -> List (List Char)
  | [] => []
  | [last] => if last.isEmpty then [] else [last]
  | line :: more => dropReturn line :: closeLines more

def linesOf (cs : List Char) : List (List Char) :=
  closeLines (pieces (· == '\n') cs)

def lines (text : String) : List String :=
  (linesOf text.toList).map String.ofList

def trimStart (cs : List Char) : List Char :=
  cs.dropWhile isBlank

end Text
end TutorialKit
