/-!
# White space in markup

Inside tags only four characters separate; text counts as blank if it holds one more.
-/

namespace TutorialKit
namespace Xml

def isSpace (c : Char) : Bool :=
  c == ' ' || c == '\t' || c == '\n' || c == '\r'

def isBlankChar (c : Char) : Bool :=
  isSpace c || c == '\x0C'

def isBlank (cs : List Char) : Bool :=
  cs.all isBlankChar

def utf8Length : List Char -> Nat
  | [] => 0
  | c :: rest => c.utf8Size + utf8Length rest

end Xml
end TutorialKit
