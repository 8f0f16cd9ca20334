import TutorialKit.Text.Utf8
import TutorialKit.Xml.Element

/-!
# Writing to a sink

Elements are handed to a sink piece by piece, and the sink may run out of room.  A tag that comes
after another tag stands on a line of its own; the line break is written when the tag is, and not
when the one before it ends.
-/

namespace TutorialKit
namespace Xml

open Text

/-- A sink takes `room` bytes and then fails with `reason`. -/
structure Sink where
  room : Nat
  reason : String
  /-- The bytes that it took, the last one first. -/
  reversed : Bytes := []

namespace Sink

def accept (bytes : Bytes) (sink : Sink) : Sink :=
  { sink with
    room := sink.room - bytes.length
    reversed := (bytes.take sink.room).reverse ++ sink.reversed }

def taken (sink : Sink) : Bytes :=
  sink.reversed.reverse

end Sink

structure Layout where
  level : Nat := 0
  breaks : Bool := false

structure Writer where
  sink : Sink
  layout : Layout := {}

/-- Something to write, piece by piece up to the first that the sink has no room for. -/
abbrev Writing (ε : Type) := ExceptT ε (StateM Writer)

namespace Writing

def put (cs : List Char) : Writing String Unit := do
  let writer <- get
  let bytes := Utf8.encode cs
  set { writer with sink := writer.sink.accept bytes }
  if writer.sink.room < bytes.length then throw writer.sink.reason

def arrange (change : Layout -> Layout) : Writing String Unit :=
  modify fun writer => { writer with layout := change writer.layout }

/-!
# Tags and texts

The line break in front of a tag is written with that tag.
-/

def beginLine : Writing String Unit := do
  let layout := (<- get).layout
  if layout.breaks then
    put ['\n']
    put (List.replicate (indentWidth * layout.level) ' ')

def markup (opening content closing : List Char) : Writing String Unit := do
  beginLine
  put opening
  put content
  put closing
  arrange fun layout => { layout with breaks := true }

def declaration (content : String) : Writing String Unit :=
  markup "<?".toList content.toList "?>".toList

def startTag (name : String) (attributes : List Attribute) : Writing String Unit := do
  markup ['<'] (tagContent name attributes) ['>']
  arrange fun layout => { layout with level := layout.level + 1 }

def emptyTag (name : String) (attributes : List Attribute) : Writing String Unit :=
  markup ['<'] (tagContent name attributes) "/>".toList

def endTag (name : String) : Writing String Unit := do
  arrange fun layout => { layout with level := layout.level - 1 }
  markup "</".toList name.toList ['>']

/-- The tag behind a text follows at once. -/
def text (content : String) : Writing String Unit := do
  put (escapeText content.toList)
  arrange fun layout => { layout with breaks := false }

mutual

def element : Element -> Writing String Unit
  | .empty name attributes => emptyTag name attributes
  | .text name content => do
      startTag name []
      text content
      endTag name
  | .parent name attributes children => do
      startTag name attributes
      elements children
      endTag name

def elements : List Element -> Writing String Unit
  | [] => pure ()
  | first :: rest => do
      element first
      elements rest

end

end Writing

end Xml
end TutorialKit
