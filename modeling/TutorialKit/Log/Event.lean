/-!
# Log events

What the parts of the program have to say about their work.  The source of an event is named by a
path, so that filters can select a part and all that lies in it.
-/

namespace TutorialKit
namespace Log

inductive Level where
  | error
  | warn
  | info
  | debug
  | trace
  deriving DecidableEq, Inhabited

namespace Level

/-- Higher levels say more. -/
def rank : Level -> Nat
  | error => 1
  | warn => 2
  | info => 3
  | debug => 4
  | trace => 5

def name : Level -> String
  | error => "error"
  | warn => "warn"
  | info => "info"
  | debug => "debug"
  | trace => "trace"

def all : List Level := [error, warn, info, debug, trace]

def ofName? (name : String) : Option Level :=
  all.find? fun level => level.name == name

end Level

inductive Source where
  | commands
  | loading
  | saving
  | reading
  | writing
  | scripts
  deriving DecidableEq

namespace Source

def path : Source -> String
  | commands => "ktutorial::commands"
  | loading => "ktutorial_io::io::load"
  | saving => "ktutorial_io::io::save"
  | reading => "ktutorial_xml::reader"
  | writing => "ktutorial_xml::writer"
  | scripts => "ktutorial_export::javascript"

end Source

structure Event where
  source : Source
  level : Level
  message : String
  fields : List (String × String) := []
  deriving DecidableEq

structure Span where
  source : Source
  level : Level
  name : String
  fields : List (String × String)
  deriving DecidableEq

end Log
end TutorialKit
