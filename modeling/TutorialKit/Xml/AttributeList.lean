import TutorialKit.Xml.AttributeValue
import TutorialKit.Xml.Element

/-!
# Attributes of a tag

The attributes follow the name of a tag: a key, an equals sign and a quoted value each.  A key has
at least one character, which may be any, and goes on to the next equals sign or white space.
Positions count the bytes of the tag from just after its `<`.
-/

namespace TutorialKit
namespace Xml

inductive AttributeFault where
  | missingEquals (position : Nat)
  | duplicated (position first : Nat)
  | unquoted (position : Nat)
  | missingValue (position : Nat)
  | missingQuote (position : Nat) (quote : Char)
  deriving DecidableEq

inductive AttributeError where
  | fault (fault : AttributeFault)
  | lessThan (key : List Char)
  | value (error : ValueError)
  deriving DecidableEq

namespace AttributeFault

def message : AttributeFault -> String
  | missingEquals position =>
      "position " ++ toString position ++
        ": attribute key must be directly followed by \x60=\x60 or space"
  | duplicated position first =>
      "position " ++ toString position ++
        ": duplicated attribute, previous declaration at position " ++ toString first
  | unquoted position =>
      "position " ++ toString position ++
        ": attribute value must be enclosed in \x60\"\x60 or \x60'\x60"
  | missingValue position =>
      "position " ++ toString position ++ ": \x60=\x60 must be followed by an attribute value"
  | missingQuote position quote =>
      "position " ++ toString position ++ ": missing closing quote \x60" ++
        String.ofList [quote] ++ "\x60 in attribute value"

end AttributeFault

namespace AttributeError

def message : AttributeError -> String
  | fault f => f.message
  | lessThan key =>
      "'<' is not allowed in the value of attribute '" ++ String.ofList key ++ "'"
  | value error => error.message

end AttributeError

/-!
# Scanning

Keys and values are read up to the first fault, which carries its position.
-/

structure RawAttribute where
  key : List Char
  value : List Char
  deriving DecidableEq

structure RawAttributes where
  found : List RawAttribute
  fault : Option AttributeFault
  deriving DecidableEq

namespace RawAttributes

def failed (fault : AttributeFault) : RawAttributes := ⟨[], some fault⟩

def cons (entry : RawAttribute) (later : RawAttributes) : RawAttributes :=
  { later with found := entry :: later.found }

end RawAttributes

/-- Where scanning stands; what is held is reversed. -/
inductive AttributeMode where
  | between
  | key (start : Nat) (held : List Char)
  | afterKey (start : Nat) (key : List Char)
  | beforeValue (key : List Char)
  | value (key : List Char) (quote : Char) (held : List Char)

/-- Goes on to the value of a key, unless the key is one of those `seen` with their positions. -/
def closeKey (seen : List (List Char × Nat)) (start : Nat) (key : List Char) :
    Except AttributeFault AttributeMode :=
  match seen.lookup key with
  | some first => .error (.duplicated start first)
  | none => .ok (.beforeValue key)

def scanAttributes (size : Nat) (mode : AttributeMode) (seen : List (List Char × Nat))
    (position : Nat) : List Char -> RawAttributes
  | [] =>
      match mode with
      | .between => ⟨[], none⟩
      | .key .. => .failed (.missingEquals size)
      | .afterKey .. => .failed (.missingEquals size)
      | .beforeValue _ => .failed (.missingValue size)
      | .value _ quote _ => .failed (.missingQuote size quote)
  | c :: rest =>
      let next := position + c.utf8Size
      let close (start : Nat) (key : List Char) : RawAttributes :=
        match closeKey seen start key with
        | .error fault => .failed fault
        | .ok mode => scanAttributes size mode ((key, start) :: seen) next rest
      match mode with
      | .between =>
          if isSpace c then scanAttributes size .between seen next rest
          else scanAttributes size (.key position [c]) seen next rest
      | .key start held =>
          if c = '=' then close start held.reverse
          else if isSpace c then
            scanAttributes size (.afterKey start held.reverse) seen next rest
          else scanAttributes size (.key start (c :: held)) seen next rest
      | .afterKey start key =>
          if c = '=' then close start key
          else if isSpace c then scanAttributes size (.afterKey start key) seen next rest
          else .failed (.missingEquals position)
      | .beforeValue key =>
          if isSpace c then scanAttributes size (.beforeValue key) seen next rest
          else if c = '"' || c = '\'' then scanAttributes size (.value key c []) seen next rest
          else .failed (.unquoted position)
      | .value key quote held =>
          if c = quote then
            (scanAttributes size .between seen next rest).cons ⟨key, held.reverse⟩
          else scanAttributes size (.value key quote (c :: held)) seen next rest

/-!
# Tags

The name of a tag is what comes before the first white space; attributes follow.
-/

def tagName (content : List Char) : List Char :=
  content.takeWhile fun c => !isSpace c

def rawAttributes (content : List Char) : RawAttributes :=
  scanAttributes (utf8Length content) .between [] (utf8Length (tagName content))
    (content.dropWhile fun c => !isSpace c)

def decodeAttribute (raw : RawAttribute) : Except AttributeError Attribute :=
  if raw.value.contains '<' then .error (.lessThan raw.key)
  else
    match unescapeValue raw.value with
    | .ok value => .ok ⟨String.ofList raw.key, String.ofList value⟩
    | .error error => .error (.value error)

/-- The attributes of a tag with their references resolved; the first error from the left counts. -/
def attributesOf (content : List Char) : Except AttributeError (List Attribute) :=
  let raw := rawAttributes content
  match raw.found.mapM decodeAttribute, raw.fault with
  | .error error, _ => .error error
  | .ok _, some fault => .error (.fault fault)
  | .ok decoded, none => .ok decoded

namespace Attribute

def lookup? (name : String) (attributes : List Attribute) : Option String :=
  (attributes.find? fun a => a.name == name).map Attribute.value

end Attribute

end Xml
end TutorialKit
