/-!
# Values in JSON

Texts, counts, flags, lists and records with their fields in order, printed with one entry in each
line and two spaces for every level, or all in one line.
-/

namespace TutorialKit
namespace Text

inductive Json where
  | text (value : String)
  | count (value : Nat)
  | flag (value : Bool)
  | list (items : List Json)
  | record (fields : List (String × Json))

namespace Json

/-!
# Quoted texts

Control characters, quotes and backslashes are escaped.
-/

def hexDigits (n : Nat) : List Char :=
  [(n / 16).digitChar, (n % 16).digitChar]

def escapeChar (c : Char) : List Char :=
  if c = '"' then ['\\', '"']
  else if c = '\\' then ['\\', '\\']
  else if c = '\n' then ['\\', 'n']
  else if c = '\r' then ['\\', 'r']
  else if c = '\t' then ['\\', 't']
  else if c = '\x08' then ['\\', 'b']
  else if c = '\x0c' then ['\\', 'f']
  else if c.toNat < 32 then ['\\', 'u', '0', '0'] ++ hexDigits c.toNat
  else [c]

def quoted (text : String) : String :=
  String.ofList ('"' :: text.toList.flatMap escapeChar ++ ['"'])

def flagText (value : Bool) : String :=
  if value then "true" else "false"

/-!
# Printing over several lines

Every entry stands in a line of its own, indented by the level that it is nested at.
-/

def lineStart (depth : Nat) : String :=
  String.ofList ('\n' :: List.replicate (2 * depth) ' ')

/-- Entries between brackets, each in a line of its own; nothing between them if there is none. -/
def bracketed (opening closing : String) (depth : Nat) (entries : List String) : String :=
  if entries.isEmpty then opening ++ closing
  else
    opening ++ ",".intercalate (entries.map fun entry => lineStart (depth + 1) ++ entry) ++
      lineStart depth ++ closing

mutual

def printAt (depth : Nat) : Json -> String
  | text value => quoted value
  | count value => toString value
  | flag value => flagText value
  | list items => bracketed "[" "]" depth (printItems depth items)
  | record fields => bracketed "\x7b" "\x7d" depth (printFields depth fields)

def printItems (depth : Nat) : List Json -> List String
  | [] => []
  | item :: rest => printAt (depth + 1) item :: printItems depth rest

def printFields (depth : Nat) : List (String × Json) -> List String
  | [] => []
  | (name, value) :: rest =>
      (quoted name ++ ": " ++ printAt (depth + 1) value) :: printFields depth rest

end

def print (value : Json) : String :=
  printAt 0 value

/-!
# Printing in one line

The same values without line breaks.
-/

mutual

def compact : Json -> String
  | text value => quoted value
  | count value => toString value
  | flag value => flagText value
  | list items => "[" ++ ",".intercalate (compactItems items) ++ "]"
  | record fields => "\x7b" ++ ",".intercalate (compactFields fields) ++ "\x7d"

def compactItems : List Json -> List String
  | [] => []
  | item :: rest => compact item :: compactItems rest

def compactFields : List (String × Json) -> List String
  | [] => []
  | (name, value) :: rest => (quoted name ++ ":" ++ compact value) :: compactFields rest

end

end Json
end Text
end TutorialKit
