import TutorialKit.Text.Pieces

/-!
# Layout of a script

Lines are indented by four spaces for every level.  Code that the author wrote keeps its own line
breaks and blanks; each of its lines is moved to the right, and a last line without a line break
gets one.
-/

namespace TutorialKit
namespace Script

def indentation (level : Nat) : List Char :=
  List.replicate (4 * level) ' '

def line (level : Nat) (text : String) : String :=
  String.ofList (indentation level) ++ text ++ "\n"

def dropFinalBreak (cs : List Char) : List Char :=
  if cs.getLast? = some '\n' then cs.dropLast else cs

def indentLine (level : Nat) (cs : List Char) : List Char :=
  indentation level ++ cs ++ ['\n']

def indentChars (level : Nat) (cs : List Char) : List Char :=
  if cs = [] then []
  else (Text.pieces (· == '\n') (dropFinalBreak cs)).flatMap (indentLine level)

def indentCode (level : Nat) (code : String) : String :=
  String.ofList (indentChars level code.toList)

/-!
# Texts in double quotes

Line breaks, tabs and double quotes are escaped; a backslash is passed on as it is.
-/

def escapeChar (c : Char) : List Char :=
  if c = '\n' then ['\\', 'n']
  else if c = '\t' then ['\\', 't']
  else if c = '"' then ['\\', '"']
  else [c]

def escapeChars (cs : List Char) : List Char :=
  cs.flatMap escapeChar

/-- A text as it stands between double quotes in a script. -/
def quoted (text : String) : String :=
  "\"" ++ String.ofList (escapeChars text.toList) ++ "\""

end Script
end TutorialKit
