import TutorialKit.Text.Pieces
import TutorialKit.Text.Styling

/-!
# Tables

A table is drawn with box characters.  A cell may have several lines, and text in it may be styled;
every column is as wide as its widest line, with a space on both sides.
-/

namespace TutorialKit
namespace Text

/-- Every row has one cell for each column of the header. -/
structure Table where
  header : List String
  rows : List (List String)
  deriving DecidableEq

namespace Table

def cellLines (cell : String) : List String :=
  Styling.closed [] (linePieces cell)

def cellWidth (cell : String) : Nat :=
  ((cellLines cell).map Styling.visibleWidth).foldl max 0

def widenBy (widths : List Nat) (row : List String) : List Nat :=
  List.zipWith (fun w cell => max w (cellWidth cell)) widths row

def widths (table : Table) : List Nat :=
  table.rows.foldl widenBy (table.header.map cellWidth)

/-!
# Rules between rows

A rule is a line of one character, with joints at the sides and between the columns.
-/

def repeated (c : Char) (n : Nat) : String :=
  String.ofList (List.replicate n c)

def rule (left line joint right : Char) (widths : List Nat) : String :=
  String.singleton left ++
    (String.singleton joint).intercalate (widths.map fun w => repeated line (w + 2)) ++
    String.singleton right

/-!
# Rows

A row has as many lines as its highest cell, and a cell with fewer lines is empty below them.
-/

def padded (w : Nat) (line : String) : String :=
  " " ++ line ++ repeated ' ' (w - Styling.visibleWidth line) ++ " "

def height (row : List String) : Nat :=
  (row.map fun cell => (cellLines cell).length).foldl max 1

def rowLine (widths : List Nat) (row : List String) (index : Nat) : String :=
  let cells := List.zipWith
    (fun w cell => padded w (((cellLines cell)[index]?).getD "")) widths row
  "│" ++ "┆".intercalate cells ++ "│"

def rowLines (widths : List Nat) (row : List String) : List String :=
  (List.range (height row)).map (rowLine widths row)

def lines (table : Table) : List String :=
  let ws := table.widths
  rule '╭' '─' '┬' '╮' ws :: rowLines ws table.header ++ rule '╞' '═' '╪' '╡' ws ::
    table.rows.flatMap (rowLines ws) ++ [rule '╰' '─' '┴' '╯' ws]

def render (table : Table) : String :=
  "\n".intercalate table.lines

end Table
end Text
end TutorialKit
