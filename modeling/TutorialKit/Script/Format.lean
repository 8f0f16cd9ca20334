import TutorialKit.Script.Exporter

/-!
# Script formats

A format is chosen by the pattern of the file names it is written to, alone or followed by a bar
and a label.
-/

namespace TutorialKit
namespace Script

inductive Format where
  | javascript
  deriving DecidableEq, Inhabited

structure UnknownFormat where
  text : String
  deriving DecidableEq

namespace UnknownFormat

def message (error : UnknownFormat) : String :=
  "Unknown exporter type: " ++ error.text

end UnknownFormat

namespace Format

def all : List Format := [javascript]

def pattern : Format -> String
  | javascript => "*.js"

def label : Format -> String
  | javascript => "JavaScript file"

def extension : Format -> String
  | javascript => "js"

def entry (format : Format) : String :=
  format.pattern ++ "|" ++ format.label

def ofPattern? (pattern : String) : Option Format :=
  all.find? fun format => format.pattern == pattern

/-- The part of an entry before its first bar. -/
def entryPattern (text : String) : String :=
  String.ofList (text.toList.takeWhile (· != '|'))

def ofEntry (text : String) : Except UnknownFormat Format :=
  match ofPattern? (entryPattern text) with
  | some format => .ok format
  | none => .error ⟨text⟩

def render (format : Format) (tutorial : Tutorial) : String :=
  match format with
  | javascript => (({} : Exporter).run tutorial).2

end Format
end Script
end TutorialKit
