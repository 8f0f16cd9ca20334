import TutorialKit.Text.Alphanumeric
import TutorialKit.Text.Blank
import TutorialKit.Text.LetterCase
import TutorialKit.Text.Lines
import TutorialKit.Text.WordCharacter

/-!
# Markup in step texts

A text is handed to translators with a context that tells whether it may hold markup.  Two guesses
are made: the first tag of the first line decides whether a text is rich text, and any tag of the
semantic markup counts wherever it stands.
-/

namespace TutorialKit
namespace Script
namespace Markup

def richElements : List String :=
  ["a", "address", "b", "big", "blockquote", "body", "br", "caption", "center", "cite", "code",
   "dd", "dfn", "div", "dl", "dt", "em", "font", "h1", "h2", "h3", "h4", "h5", "h6", "head", "hr",
   "html", "i", "img", "kbd", "li", "link", "meta", "nobr", "ol", "p", "pre", "qt", "s", "samp",
   "small", "span", "strong", "style", "sub", "sup", "table", "tbody", "td", "tfoot", "th",
   "thead", "title", "tr", "tt", "u", "ul", "var"]

def semanticTags : List String :=
  ["application", "bcode", "command", "email", "emphasis", "envar", "filename", "icode",
   "interface", "link", "message", "nl", "numid", "placeholder", "resource", "shortcut", "para",
   "title", "subtitle", "list", "item", "note", "warning"]

def lowerCased (cs : List Char) : List Char :=
  cs.flatMap Text.toLower

def isNamed (names : List String) (name : List Char) : Bool :=
  names.contains (String.ofList (lowerCased name))

/-!
# Rich text

Only the first line counts, behind a declaration if the text begins with one.
-/

/--
What follows a declaration at the start of a text.  The declaration ends at the first `?>` that
has a character after it; without one nothing follows.
-/
def afterDeclaration : List Char -> List Char
  | '?' :: '>' :: c :: rest => c :: rest
  | _ :: rest => afterDeclaration rest
  | [] => []

def body (cs : List Char) : List Char :=
  let start := Text.trimStart cs
  if "<?xml".toList.isPrefixOf start then Text.trimStart (afterDeclaration start) else start

/-- What the first line of a text says before its first tag. -/
inductive Opening where
  | escapedTag
  | tag (rest : List Char)
  | none

def opening : List Char -> Opening
  | [] => .none
  | c :: rest =>
      if c = '<' then .tag rest
      else if c = '\n' then .none
      else if c = '&' && "lt;".toList.isPrefixOf rest then .escapedTag
      else opening rest

/--
The name at the start of a tag, given what stands between `<` and `>`.  Blanks and exclamation
marks may come before it; a blank or a slash at the very end closes it; nothing else may stand
next to it.
-/
def tagName? (name : List Char) : List Char -> Option (List Char)
  | [] => some name
  | c :: rest =>
      if Text.isAlphanumeric c then tagName? (name ++ [c]) rest
      else if !name.isEmpty && Text.isBlank c then some name
      else if !name.isEmpty && c == '/' && rest.isEmpty then some name
      else if !Text.isBlank c && (!name.isEmpty || c != '!') then none
      else tagName? name rest

def isRichTag (rest : List Char) : Bool :=
  if rest.contains '>' then
    match tagName? [] (rest.takeWhile (· != '>')) with
    | some name => isNamed richElements name
    | none => false
  else false

def isRich (cs : List Char) : Bool :=
  let start := body cs
  if lowerCased (start.take 5) == "<!doc".toList then true
  else
    match opening start with
    | .escapedTag => true
    | .tag rest => isRichTag rest
    | .none => false

/-!
# Semantic markup

Tags are looked for in the whole text.
-/

def leadingWord (rest : List Char) : List Char :=
  (Text.trimStart rest).takeWhile Text.isWordCharacter

/--
The words that the tags of a text begin with.  A tag ends at the next `>`; one that does not begin
with a word, or does not end, is none.  `inside` tells whether a tag is still open.
-/
def tagWords (inside : Bool) : List Char -> List (List Char)
  | [] => []
  | c :: rest =>
      if inside then tagWords (c != '>') rest
      else if c == '<' && rest.contains '>' && !(leadingWord rest).isEmpty then
        leadingWord rest :: tagWords true rest
      else tagWords false rest

def isSemantic (cs : List Char) : Bool :=
  (tagWords false cs).any (isNamed semanticTags)

end Markup

def mightBeRichText (text : String) : Bool :=
  Markup.isRich text.toList

def mightBeSemanticMarkup (text : String) : Bool :=
  Markup.isSemantic text.toList

end Script
end TutorialKit
