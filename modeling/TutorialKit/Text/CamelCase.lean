import TutorialKit.Text.Alphanumeric
import TutorialKit.Text.LetterCase
import TutorialKit.Text.Pieces

/-!
# Camel case

Free text becomes one identifier: words begin at a capital and everything between words is
dropped.  Only the first character of a word changes, so a word written in mixed case keeps it.
-/

namespace TutorialKit
namespace Text
namespace CamelCase

def isWordChar (c : Char) : Bool :=
  isAlphanumeric c || c == '_'

/-- The maximal runs of word characters, in order. -/
def words (cs : List Char) : List (List Char) :=
  (pieces (fun c => !isWordChar c) cs).filter fun word => !word.isEmpty

def capitalize : List Char -> List Char
  | [] => []
  | c :: rest => toUpper c ++ rest

def uncapitalize : List Char -> List Char
  | [] => []
  | c :: rest => toLower c ++ rest

def upper (cs : List Char) : List Char :=
  (words cs).flatMap capitalize

def lower (cs : List Char) : List Char :=
  uncapitalize (upper cs)

end CamelCase

def upperCamelCase (text : String) : String :=
  String.ofList (CamelCase.upper text.toList)

def lowerCamelCase (text : String) : String :=
  String.ofList (CamelCase.lower text.toList)

end Text
end TutorialKit
