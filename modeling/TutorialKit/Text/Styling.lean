import TutorialKit.Text.Pattern
import TutorialKit.Text.Width

/-!
# Styled text

Text may hold codes that tell a terminal to change its style.  They take no columns; a style that a
line leaves on is ended with the line and begun again on the next one.
-/

namespace TutorialKit
namespace Text
namespace Styling

/-!
# Codes

A code is an escape with what belongs to it: parameters and a final character, or a message up to
its end.
-/

def digit : Pattern :=
  .one ⟨[(0x30, 0x39)], false⟩

def parameters : Pattern :=
  .all [digit, .upTo 3 digit, .many (.sequence (.char ';') (.upTo 4 digit))]

def finalCharacter : Pattern :=
  .one ⟨[(0x30, 0x39), (0x3C, 0x3E), (0x41, 0x50), (0x52, 0x52), (0x5A, 0x5A), (0x63, 0x63),
    (0x66, 0x6E), (0x71, 0x72), (0x79, 0x79)], false⟩

/-- A choice of characters, or parameters and a final character. -/
def shortCode : Pattern :=
  .sequence (.anyOf ['\x1b', Char.ofNat 0x9b]) (.choice
    (.sequence (.anyOf ['(', ')']) (.anyOf ['0', '1', '2', 'A', 'B']))
    (.all [.many (.anyOf ['[', '(', ')', '#', ';', '?']), .optional parameters, finalCharacter]))

def messageCode : Pattern :=
  .all [.char '\x1b', .char ']', .many (.one ⟨[(0x07, 0x07), (0x1B, 0x1B)], true⟩),
    .choice (.char '\x07') (.sequence (.char '\x1b') (.char '\\'))]

def code : Pattern :=
  .choice shortCode messageCode

def codesFrom (skip : Nat) : List Char -> List String
  | [] => []
  | c :: rest =>
      match skip with
      | left + 1 => codesFrom left rest
      | 0 =>
          match code.matchLength? (c :: rest) with
          | none => codesFrom 0 rest
          | some length =>
              String.ofList ((c :: rest).take length) :: codesFrom (length - 1) rest

def codes (text : String) : List String :=
  codesFrom 0 text.toList

/-!
# Styles across lines

A line ends with no style in force, and the next one begins with those that were.
-/

def reset : String := "\x1b[0m"

def after (active : List String) (code : String) : List String :=
  if code = reset then [] else active ++ [code]

/-- Each line begins with the codes in force before it, and ends with none. -/
def closed (active : List String) : List String -> List String
  | [] => []
  | line :: rest =>
      let later := (codes line).foldl after active
      (String.join active ++ line ++ if later.isEmpty then "" else reset) :: closed later rest

/-!
# Printed characters

A terminal reads a line character by character; the characters of a code take no column.
-/

inductive Mode where
  | printing
  | escape
  | escapeMarks
  | control
  /-- A message that a bell may end. -/
  | message (bell : Bool)
  deriving DecidableEq

namespace Mode

def afterEscape (n : Nat) : Mode :=
  if n == 0x18 || n == 0x1A then printing
  else if 0x20 <= n && n <= 0x2F then escapeMarks
  else if n == 0x5B then control
  else if n == 0x5D then message true
  else if n == 0x50 || n == 0x58 || n == 0x5E || n == 0x5F then message false
  else if 0x30 <= n && n <= 0x7E then printing
  else escape

def next (mode : Mode) (c : Char) : Mode :=
  let n := c.toNat
  if n == 0x1B then escape
  else if n == 0x18 || n == 0x1A then printing
  else
    match mode with
    | printing => printing
    | escape => afterEscape n
    | escapeMarks => if 0x30 <= n && n <= 0x7E then printing else escapeMarks
    | control => if 0x40 <= n && n <= 0x7E then printing else control
    | message bell => if bell && n == 0x07 then printing else message bell

def ends (mode : Mode) (c : Char) : Bool :=
  match mode, mode.next c with
  | printing, _ => false
  | _, printing => true
  | message _, escape => true
  | _, _ => false

end Mode

/--
The characters that count as printed.  A code that never ends is not printed, but its escape is if
no printed character stands between it and the code before it, or the beginning of the line; `bare`
tells that none does.
-/
def printed (mode : Mode) (bare : Bool) : List Char -> List Char
  | [] => if mode != .printing && bare then ['\x1b'] else []
  | c :: rest =>
      if mode = .printing && c != '\x1b' then c :: printed .printing false rest
      else printed (mode.next c) (bare || mode.ends c) rest

def visibleWidth (line : String) : Nat :=
  width (String.ofList (printed .printing true line.toList))

end Styling
end Text
end TutorialKit
