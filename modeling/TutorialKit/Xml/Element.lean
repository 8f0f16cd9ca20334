import TutorialKit.Xml.Escape

/-!
# Written elements

Every tag stands on a line of its own, indented by the number of elements open around it.  An
element with text is the exception: its end tag follows the text, so that no white space is added
to what it holds.
-/

namespace TutorialKit
namespace Xml

structure Attribute where
  name : String
  value : String
  deriving DecidableEq

inductive Element where
  | empty (name : String) (attributes : List Attribute)
  | text (name content : String)
  | parent (name : String) (attributes : List Attribute) (children : List Element)

namespace Attribute

def write : Attribute -> List Char
  | ⟨name, value⟩ => ' ' :: name.toList ++ "=\"".toList ++ escapeValue value.toList ++ ['"']

def optional (name value : String) : List Attribute :=
  if value = "" then [] else [⟨name, value⟩]

end Attribute

def indentWidth : Nat := 4

def lineBreak (level : Nat) : List Char :=
  '\n' :: List.replicate (indentWidth * level) ' '

def tagContent (name : String) (attributes : List Attribute) : List Char :=
  name.toList ++ attributes.flatMap Attribute.write

def startTag (name : String) (attributes : List Attribute) : List Char :=
  '<' :: tagContent name attributes ++ ['>']

def emptyTag (name : String) (attributes : List Attribute) : List Char :=
  '<' :: tagContent name attributes ++ "/>".toList

def endTag (name : String) : List Char :=
  "</".toList ++ name.toList ++ ['>']

namespace Element

mutual

/-- Writes an element in front of what is written already, which is not copied. -/
def writeOnto (level : Nat) (after : List Char) : Element -> List Char
  | empty name attributes => lineBreak level ++ emptyTag name attributes ++ after
  | text name content =>
      lineBreak level ++ startTag name [] ++ escapeText content.toList ++ endTag name ++ after
  | parent name attributes children =>
      lineBreak level ++ startTag name attributes ++
        writeAllOnto (level + 1) (lineBreak level ++ endTag name ++ after) children

def writeAllOnto (level : Nat) (after : List Char) : List Element -> List Char
  | [] => after
  | element :: rest => writeOnto level (writeAllOnto level after rest) element

end

def write (level : Nat) (element : Element) : List Char :=
  writeOnto level [] element

def writeAll (level : Nat) (elements : List Element) : List Char :=
  writeAllOnto level [] elements

/-!
# The written form

Writing in front of what is there already comes to the same as writing and putting the two together.
-/

mutual

theorem writeOnto_append (level : Nat) (first second : List Char) :
    (element : Element) ->
      writeOnto level (first ++ second) element = writeOnto level first element ++ second
  | empty name attributes => by simp [writeOnto]
  | text name content => by simp [writeOnto]
  | parent name attributes children => by
      have h := writeAllOnto_append (level + 1) (lineBreak level ++ endTag name ++ first) second
        children
      simp only [List.append_assoc] at h
      simp [writeOnto, h]

theorem writeAllOnto_append (level : Nat) (first second : List Char) :
    (elements : List Element) ->
      writeAllOnto level (first ++ second) elements =
        writeAllOnto level first elements ++ second
  | [] => rfl
  | element :: rest => by
      rw [writeAllOnto, writeAllOnto, writeAllOnto_append level first second rest,
        writeOnto_append level _ second element]

end

theorem writeOnto_eq (level : Nat) (after : List Char) (element : Element) :
    writeOnto level after element = write level element ++ after := by
  rw [write, ← writeOnto_append, List.nil_append]

theorem writeAllOnto_eq (level : Nat) (after : List Char) (elements : List Element) :
    writeAllOnto level after elements = writeAll level elements ++ after := by
  rw [writeAll, ← writeAllOnto_append, List.nil_append]

@[simp] theorem write_empty (level : Nat) (name : String) (attributes : List Attribute) :
    write level (empty name attributes) = lineBreak level ++ emptyTag name attributes := by
  simp [write, writeOnto]

@[simp] theorem write_text (level : Nat) (name content : String) :
    write level (text name content) =
      lineBreak level ++ startTag name [] ++ escapeText content.toList ++ endTag name := by
  simp [write, writeOnto]

@[simp] theorem write_parent (level : Nat) (name : String) (attributes : List Attribute)
    (children : List Element) :
    write level (parent name attributes children) =
      lineBreak level ++ startTag name attributes ++ writeAll (level + 1) children ++
        lineBreak level ++ endTag name := by
  simp [write, writeOnto, writeAllOnto_eq]

@[simp] theorem writeAll_nil (level : Nat) : writeAll level [] = [] := rfl

@[simp] theorem writeAll_cons (level : Nat) (element : Element) (rest : List Element) :
    writeAll level (element :: rest) = write level element ++ writeAll level rest := by
  rw [writeAll, writeAllOnto, writeOnto_eq]
  rfl

/-- An element that is left out if it has no text. -/
def optionalText (name content : String) : List Element :=
  if content = "" then [] else [text name content]

theorem writeAll_append (level : Nat) (es fs : List Element) :
    writeAll level (es ++ fs) = writeAll level es ++ writeAll level fs := by
  induction es with
  | nil => rfl
  | cons e es ih => simp [ih]

end Element

end Xml
end TutorialKit
