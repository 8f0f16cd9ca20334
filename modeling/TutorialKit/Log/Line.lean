import TutorialKit.Log.Event
import TutorialKit.Text.Json

/-!
# Log lines

How an event is written: level, the span that it happened in, message and fields.  The fields of
the span stand next to its name or, in the compact layout, at the end of the line.
-/

namespace TutorialKit
namespace Log

inductive Layout where
  | full
  | compact
  | json
  deriving DecidableEq, Inhabited

structure Appearance where
  layout : Layout := .full
  colored : Bool := false
  deriving DecidableEq

inductive Style where
  | bold
  | dimmed
  | italic
  | color (number : Nat)

namespace Style

def code : Style -> Nat
  | bold => 1
  | dimmed => 2
  | italic => 3
  | color number => 30 + number

def paint (style : Style) (colored : Bool) (text : String) : String :=
  if colored then "\x1b[" ++ toString style.code ++ "m" ++ text ++ "\x1b[0m" else text

end Style

namespace Level

def color : Level -> Style
  | error => .color 1
  | warn => .color 3
  | info => .color 2
  | debug => .color 4
  | trace => .color 5

def tag : Level -> String
  | error => "ERROR"
  | warn => " WARN"
  | info => " INFO"
  | debug => "DEBUG"
  | trace => "TRACE"

end Level

/-!
# Messages

Escape codes for colors stand around parts of a line only if they are asked for.
-/

/-- Characters that a terminal might act on are made visible. -/
def visibleChar (c : Char) : String :=
  if c = '\x1b' then "\\x1b"
  else if c = '\x07' then "\\x07"
  else if c = '\x08' then "\\x08"
  else if c = '\x0c' then "\\x0c"
  else if c = '\x7f' then "\\x7f"
  else if 0x80 <= c.toNat && c.toNat <= 0x9f then
    "\\u\x7b" ++ String.ofList (Text.Json.hexDigits c.toNat) ++ "\x7d"
  else String.singleton c

def visible (message : String) : String :=
  String.join (message.toList.map visibleChar)

namespace Appearance

variable (look : Appearance)

def paint (style : Style) (text : String) : String :=
  style.paint look.colored text

def field (entry : String × String) : String :=
  look.paint .italic entry.1 ++ look.paint .dimmed "=" ++ entry.2

def fields (entries : List (String × String)) : String :=
  " ".intercalate (entries.map look.field)

def body (event : Event) : String :=
  " ".intercalate (visible event.message :: event.fields.map look.field)

def levelTag (event : Event) : String :=
  look.paint event.level.color event.level.tag

/-!
# Lines

The full layout begins with level and span; the layout for programs is a JSON value in one line.
-/

def fullSpan (span : Span) : String :=
  look.paint .bold span.name ++
    (if span.fields.isEmpty then ""
      else look.paint .bold "\x7b" ++ look.fields span.fields ++ look.paint .bold "\x7d") ++
    look.paint .dimmed ":" ++ " "

def fullLine (span : Option Span) (event : Event) : String :=
  look.levelTag event ++ " " ++ ((span.map look.fullSpan).getD "") ++ look.body event

def compactSpan (span : Span) : String :=
  look.paint .bold span.name ++ ": "

/-- The fields of a span after those of the event. -/
def closingFields (span : Span) : String :=
  if span.fields.isEmpty then "" else " " ++ look.paint .dimmed (look.fields span.fields)

def compactLine (span : Option Span) (event : Event) : String :=
  look.levelTag event ++ " " ++ ((span.map look.compactSpan).getD "") ++ look.body event ++
    ((span.map look.closingFields).getD "")

end Appearance

def textFields (entries : List (String × String)) : List (String × Text.Json) :=
  entries.map fun entry => (entry.1, .text entry.2)

def jsonLine (span : Option Span) (event : Event) : String :=
  let head := [
    ("level", Text.Json.text (String.ofList (event.level.name.toList.map Char.toUpper))),
    ("fields", .record (textFields (("message", event.message) :: event.fields))),
    ("target", .text event.source.path)]
  let tail := span.toList.map fun span =>
    ("span", Text.Json.record (textFields (span.fields ++ [("name", span.name)])))
  (Text.Json.record (head ++ tail)).compact

namespace Appearance

def line (look : Appearance) (span : Option Span) (event : Event) : String :=
  (match look.layout with
    | .full => look.fullLine span event
    | .compact => look.compactLine span event
    | .json => jsonLine span event) ++ "\n"

end Appearance

end Log
end TutorialKit
