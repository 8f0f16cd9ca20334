import TutorialKit.Xml.AttributeList

/-!
# Tokens

Markup is cut into tags, text, references and the other kinds of markup.  The scanner reads one
character at a time; every mode in which it may be when the text ends has an answer of its own.
End tags are compared with the elements that are open.
-/

namespace TutorialKit
namespace Xml

/-- `start` and `empty` hold the content of their tag, name and attributes included. -/
inductive Token where
  | start (content : List Char)
  | empty (content : List Char)
  | close
  | text (content : List Char)
  | characterData (content : List Char)
  | reference (content : List Char)
  | comment
  | instruction
  | declaration
  | doctype
  deriving DecidableEq

inductive TokenError where
  | unclosedReference
  | unclosedTag
  | unclosedCharacterData
  | unclosedComment
  | unclosedDoctype
  | unclosedInstruction
  | unknownMarkup
  | missingDoctypeName
  | mismatchedEnd (expected found : List Char)
  | unmatchedEnd (found : List Char)
  deriving DecidableEq

namespace TokenError

def unclosed (what delimiter : String) : String :=
  what ++ " not closed: \x60" ++ delimiter ++ "\x60 not found before end of input"

def message : TokenError -> String
  | unclosedReference => "ill-formed document: " ++ unclosed "entity or character reference" ";"
  | unclosedTag => "syntax error: " ++ unclosed "tag" ">"
  | unclosedCharacterData => "syntax error: " ++ unclosed "CDATA" "]]>"
  | unclosedComment => "syntax error: " ++ unclosed "comment" "-->"
  | unclosedDoctype => "syntax error: " ++ unclosed "DOCTYPE" ">"
  | unclosedInstruction =>
      "syntax error: " ++ unclosed "processing instruction or xml declaration" "?>"
  | unknownMarkup => "syntax error: unknown or missed symbol in markup"
  | missingDoctypeName =>
      "ill-formed document: \x60<!DOCTYPE>\x60 declaration does not contain " ++
        "a name of a document type"
  | mismatchedEnd expected found =>
      "ill-formed document: expected \x60</" ++ String.ofList expected ++ ">\x60, but \x60</" ++
        String.ofList found ++ ">\x60 was found"
  | unmatchedEnd found =>
      "ill-formed document: close tag \x60</" ++ String.ofList found ++
        ">\x60 does not match any open tag"

end TokenError

structure Located (α : Type) where
  value : α
  offset : Nat
  deriving DecidableEq

inductive Ending where
  | complete (offset : Nat)
  | failed (error : TokenError) (offset : Nat)
  deriving DecidableEq

structure TokenStream where
  tokens : List (Located Token)
  ending : Ending
  deriving DecidableEq

namespace TokenStream

def failed (error : TokenError) (offset : Nat) : TokenStream := ⟨[], .failed error offset⟩

def cons (token : Token) (offset : Nat) (later : TokenStream) : TokenStream :=
  { later with tokens := ⟨token, offset⟩ :: later.tokens }

def consText (held : List Char) (offset : Nat) (later : TokenStream) : TokenStream :=
  if held.isEmpty then later else later.cons (.text held.reverse) offset

end TokenStream

/-!
# Modes of the scanner

A mode holds what has been read of a piece of markup that is still open.
-/

/--
What the scanner is inside of.  `start` is the offset of the `<` or `&` that opened it, and what
is held is what came after that, reversed.
-/
inductive TokenMode where
  | text (held : List Char)
  | reference (start : Nat) (held : List Char)
  | opened (start : Nat)
  | bang (start : Nat)
  | tag (start : Nat) (quote : Option Char) (held : List Char)
  | characterData (start : Nat) (held : List Char)
  | comment (start : Nat) (held : List Char)
  | doctype (start depth : Nat) (held : List Char)
  | instruction (start : Nat) (held : List Char)

namespace TokenMode

def finish (offset : Nat) : TokenMode -> TokenStream
  | text held => TokenStream.consText held offset ⟨[], .complete offset⟩
  | reference start _ => .failed .unclosedReference start
  | opened start => .failed .unclosedTag start
  | bang start => .failed .unknownMarkup start
  | tag start .. => .failed .unclosedTag start
  | characterData start _ => .failed .unclosedCharacterData start
  | comment start _ => .failed .unclosedComment start
  | doctype start .. => .failed .unclosedDoctype start
  | instruction start _ => .failed .unclosedInstruction start

end TokenMode

/-!
# Complete markup

What a piece of markup is once its `>` has been found, given what stands between `<` and `>`.
An error carries its own offset.
-/

abbrev Markup := Except (TokenError × Nat) (Token × List (List Char))

def dropTrailingSpace (cs : List Char) : List Char :=
  (cs.reverse.dropWhile isSpace).reverse

/-- The name of an end tag.  White space after it does not count, unless there is nothing else. -/
def endName (content : List Char) : List Char :=
  if content.all isSpace then content else dropTrailingSpace content

/-- `opened` are the names of the open elements, the innermost first. -/
def endMarkup (start : Nat) (opened : List (List Char)) (content : List Char) : Markup :=
  let name := endName content
  match opened with
  | [] => .error (.unmatchedEnd name, start)
  | innermost :: outer =>
      if name = innermost then .ok (.close, outer)
      else .error (.mismatchedEnd innermost name, start)

def tagMarkup (start : Nat) (opened : List (List Char)) : List Char -> Markup
  | '/' :: rest => endMarkup start opened rest
  | content =>
      if content.getLast? = some '/' then .ok (.empty content.dropLast, opened)
      else .ok (.start content, tagName content :: opened)

def characterDataMarkup (start : Nat) (opened : List (List Char)) (content : List Char) : Markup :=
  let opening := "![CDATA[".toList
  if opening.isPrefixOf content then
    .ok (.characterData ((content.drop opening.length).dropLast.dropLast), opened)
  else .error (.unclosedCharacterData, start)

def commentMarkup (start : Nat) (opened : List (List Char)) (content : List Char) : Markup :=
  if "!--".toList.isPrefixOf content then .ok (.comment, opened)
  else .error (.unclosedComment, start)

def startsDoctype (content : List Char) : Bool :=
  (content.take 8).map Char.toUpper == "!DOCTYPE".toList

/-- `finish` is the offset of the `>`. -/
def doctypeMarkup (start finish : Nat) (opened : List (List Char)) (content : List Char) :
    Markup :=
  if startsDoctype content then
    if (content.drop 8).all isSpace then .error (.missingDoctypeName, finish)
    else .ok (.doctype, opened)
  else .error (.unclosedDoctype, start)

def isDeclaration (content : List Char) : Bool :=
  "xml".toList.isPrefixOf content &&
    match content.drop 3 with
    | [] => true
    | c :: _ => isSpace c

/-- The content includes both question marks; a single one is not enough. -/
def instructionMarkup (start : Nat) (opened : List (List Char)) (content : List Char) : Markup :=
  if content.length <= 1 then .error (.unclosedInstruction, start)
  else if isDeclaration content.tail.dropLast then .ok (.declaration, opened)
  else .ok (.instruction, opened)

/-!
# Scanning

How a character is read depends on the mode alone.
-/

def quoteAfter (quote : Option Char) (c : Char) : Option Char :=
  match quote with
  | none => if c = '"' || c = '\'' then some c else none
  | some q => if c = q then none else some q

def scanTokens (mode : TokenMode) (opened : List (List Char)) (offset : Nat) :
    List Char -> TokenStream
  | [] => mode.finish offset
  | c :: rest =>
      let next := offset + c.utf8Size
      let complete (markup : Markup) : TokenStream :=
        match markup with
        | .error (error, place) => .failed error place
        | .ok (token, opened) => (scanTokens (.text []) opened next rest).cons token next
      match mode with
      | .text held =>
          if c = '<' then
            TokenStream.consText held offset (scanTokens (.opened offset) opened next rest)
          else if c = '&' then
            TokenStream.consText held offset (scanTokens (.reference offset []) opened next rest)
          else scanTokens (.text (c :: held)) opened next rest
      | .reference start held =>
          if c = ';' then complete (.ok (.reference held.reverse, opened))
          else if c = '&' || c = '<' then .failed .unclosedReference start
          else scanTokens (.reference start (c :: held)) opened next rest
      | .opened start =>
          if c = '>' then complete (tagMarkup start opened [])
          else if c = '!' then scanTokens (.bang start) opened next rest
          else if c = '?' then scanTokens (.instruction start ['?']) opened next rest
          else scanTokens (.tag start (quoteAfter none c) [c]) opened next rest
      | .bang start =>
          if c = '[' then scanTokens (.characterData start ['[', '!']) opened next rest
          else if c = '-' then scanTokens (.comment start ['-', '!']) opened next rest
          else if c = 'D' || c = 'd' then scanTokens (.doctype start 0 [c, '!']) opened next rest
          else .failed .unknownMarkup start
      | .tag start quote held =>
          if c = '>' && quote.isNone then complete (tagMarkup start opened held.reverse)
          else scanTokens (.tag start (quoteAfter quote c) (c :: held)) opened next rest
      | .characterData start held =>
          if c = '>' && held.take 2 == [']', ']'] then
            complete (characterDataMarkup start opened held.reverse)
          else scanTokens (.characterData start (c :: held)) opened next rest
      | .comment start held =>
          if c = '>' && held.take 2 == ['-', '-'] && 5 <= held.length then
            complete (commentMarkup start opened held.reverse)
          else scanTokens (.comment start (c :: held)) opened next rest
      | .doctype start depth held =>
          if c = '>' && depth == 0 then
            complete (doctypeMarkup start offset opened held.reverse)
          else
            let deeper := if c = '<' then depth + 1 else if c = '>' then depth - 1 else depth
            scanTokens (.doctype start deeper (c :: held)) opened next rest
      | .instruction start held =>
          if c = '>' && held.head? == some '?' then
            complete (instructionMarkup start opened held.reverse)
          else scanTokens (.instruction start (c :: held)) opened next rest

theorem scanTokens_plain (held : List Char) (opened : List (List Char)) (offset : Nat) {c : Char}
    (hlt : c ≠ '<') (hamp : c ≠ '&') (rest : List Char) :
    scanTokens (.text held) opened offset (c :: rest) =
      scanTokens (.text (c :: held)) opened (offset + c.utf8Size) rest := by
  simp only [scanTokens, hlt, hamp, if_false]

/-- A byte order mark at the start is not part of a text and does not count in offsets. -/
def dropByteOrderMark : List Char -> List Char
  | '\uFEFF' :: rest => rest
  | cs => cs

def tokens (cs : List Char) : TokenStream :=
  scanTokens (.text []) [] 0 (dropByteOrderMark cs)

end Xml
end TutorialKit
