import TutorialKit.Script.Statement

/-!
# Blocks

A script is a sequence of blocks: comments, function declarations, connections of a signal to a
function, and the calls that build the tutorial.
-/

namespace TutorialKit
namespace Script

inductive Block where
  | license (text : String)
  | translations
  | gap
  | problem (problem : Problem)
  | setName (name : String)
  | setDescription (description : String)
  | stepComment (id : String)
  | newStep (object id : String)
  | setText (object context text : String)
  | addStep (object : String)
  | function (name parameter : String) (statements : List Statement) (code : String)
  | connect (object signal callee : String)
  deriving DecidableEq

namespace Block

/-!
## The license

The box is as wide as the longest line of the license.
-/

def boxWidth (lines : List (List Char)) : Nat :=
  (lines.map List.length).foldr max 0

def boxLine (width : Nat) (line : List Char) : List Char :=
  " *   ".toList ++ line ++ List.replicate (width - line.length) ' ' ++ "   *\n".toList

/-- A comment that frames the lines of a text. -/
def box (cs : List Char) : List Char :=
  let lines := Text.pieces (· == '\n') cs
  let width := boxWidth lines
  let border := List.replicate width '*'
  "/****".toList ++ border ++ "****\n".toList ++ lines.flatMap (boxLine width) ++
    " ****".toList ++ border ++ "****/\n\n".toList

/-!
## Text of a block

How a block reads does not depend on the blocks around it.
-/

def setInformation (setter value : String) : String :=
  line 0
    ("tutorial.tutorialInformationAsObject()." ++ setter ++ "(t.i18n(" ++ quoted value ++ "));")

def statementsText (statements : List Statement) : String :=
  String.join (statements.map (Statement.text 1))

def text : Block -> String
  | license content => String.ofList (box content.toList)
  | translations => "t = Kross.module(\"kdetranslation\");\n\n"
  | gap => "\n"
  | problem p => line 0 (Problem.marker ++ p.message)
  | setName name => setInformation "setName" name
  | setDescription description => setInformation "setDescription" description
  | stepComment id => line 0 ("//Step " ++ id)
  | newStep object id => line 0 (object ++ " = ktutorial.newStep(" ++ quoted id ++ ");")
  | setText object context content =>
      line 0 (object ++ ".setText(t.i18nc(\"" ++ context ++ "\", " ++ quoted content ++ "));")
  | addStep object => line 0 ("tutorial.addStep(" ++ object ++ ");")
  | function name parameter statements code =>
      line 0 ("function " ++ name ++ "(" ++ parameter ++ ") \x7b") ++ statementsText statements ++
        indentCode 1 code ++ line 0 "\x7d"
  | connect object signal callee =>
      line 0 ("connect(" ++ object ++ ", \"" ++ signal ++ "(QObject*)\",") ++
        line 0 ("        this, \"" ++ callee ++ "(QObject*)\");") ++ "\n"

def functionName? : Block -> Option String
  | function name .. => some name
  | _ => none

end Block

def blocksText (blocks : List Block) : String :=
  String.join (blocks.map Block.text)

end Script
end TutorialKit
