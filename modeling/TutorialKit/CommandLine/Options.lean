import TutorialKit.Log.Filter.Reading
import TutorialKit.Log.Line
import TutorialKit.Storage.Path

/-!
# Command line options

Arguments are read in two parts: those before the name of a command and those after it.  Options
that belong to no command in particular may stand in both parts; then the second part counts.
-/

namespace TutorialKit
namespace CommandLine

inductive Color where
  | auto
  | always
  | never
  deriving DecidableEq, Inhabited

structure Globals where
  verbose : Nat := 0
  quiet : Nat := 0
  level : Option Log.Level := none
  layout : Option Log.Layout := none
  logFile : Option Path := none
  color : Option Color := none
  deriving DecidableEq

inductive Command where
  | exportScript (input : Path) (output : Option Path) (format : String)
  | check (input : Path)
  | inspect (input : Path) (json : Bool)
  | format (input : Path) (output : Option Path)
  | listFormats
  deriving DecidableEq

structure Invocation where
  globals : Globals
  command : Command
  deriving DecidableEq

inductive Intent where
  | showVersion
  | run (invocation : Invocation)
  deriving DecidableEq

inductive UsageError where
  | unexpected (argument : String)
  | missingValue (option : String)
  | invalidValue (option value : String)
  | repeated (option : String)
  | conflicting (first second : String)
  | missingCommand
  | unknownCommand (name : String)
  | missingInput
  deriving DecidableEq

namespace UsageError

def message : UsageError -> String
  | unexpected argument => "unexpected argument '" ++ argument ++ "' found"
  | missingValue option =>
      "a value is required for '" ++ option ++ "' but none was supplied"
  | invalidValue option value => "invalid value '" ++ value ++ "' for '" ++ option ++ "'"
  | repeated option => "the argument '" ++ option ++ "' cannot be used multiple times"
  | conflicting first second =>
      "the argument '" ++ first ++ "' cannot be used with '" ++ second ++ "'"
  | missingCommand => "a command is required but none was given"
  | unknownCommand name => "unrecognized subcommand '" ++ name ++ "'"
  | missingInput => "the following required arguments were not provided: <INPUT>"

end UsageError

/-!
# Kinds of options

A flag stands by itself and a setting takes a value.  Some belong to one command; the others may
stand before its name as well.
-/

inductive Flag where
  | verbose
  | quiet
  | json
  | version
  deriving DecidableEq

inductive Setting where
  | color
  | logLevel
  | logFormat
  | logFile
  | output
  | type
  deriving DecidableEq

namespace Setting

def long : Setting -> String
  | color => "--color"
  | logLevel => "--log-level"
  | logFormat => "--log-format"
  | logFile => "--log-file"
  | output => "--output"
  | type => "--type"

def globals : List Setting := [color, logLevel, logFormat, logFile]

end Setting

inductive CommandName where
  | exportScript
  | check
  | inspect
  | format
  | listFormats
  deriving DecidableEq

namespace CommandName

def ofText? (name : String) : Option CommandName :=
  if name = "export" then some exportScript
  else if name = "check" then some check
  else if name = "inspect" then some inspect
  else if name = "format" then some format
  else if name = "exporters" then some listFormats
  else none

end CommandName

abbrev Scope := Option CommandName

namespace Scope

def settings (scope : Scope) : List Setting :=
  match scope with
  | some .exportScript => .output :: .type :: Setting.globals
  | some .format => .output :: Setting.globals
  | _ => Setting.globals

def longFlag? (scope : Scope) (name : String) : Option Flag :=
  if name = "--verbose" then some .verbose
  else if name = "--quiet" then some .quiet
  else if name = "--version" && scope.isNone then some .version
  else if name = "--json" && scope == some .inspect then some .json
  else none

def shortFlag? (scope : Scope) (c : Char) : Option Flag :=
  if c = 'v' then some .verbose
  else if c = 'q' then some .quiet
  else if c = 'V' && scope.isNone then some .version
  else none

def longSetting? (scope : Scope) (name : String) : Option Setting :=
  (settings scope).find? fun setting => setting.long == name

def shortSetting? (scope : Scope) (c : Char) : Option Setting :=
  if c = 'o' && (settings scope).contains .output then some .output else none

end Scope

/-!
# Reading arguments

An argument says something by itself or takes the next one for its value.
-/

inductive Given where
  | flag (flag : Flag)
  | setting (setting : Setting) (value : String)
  | positional (text : String)
  deriving DecidableEq

structure Lexed where
  given : List Given
  open_ : Option Setting := none

/-- The value that is attached to a short option; an equals sign before it is dropped. -/
def attachedValue (cs : List Char) : String :=
  String.ofList (if cs.head? = some '=' then cs.tail else cs)

/--
Reads short options that share a dash; one that takes a value, or asks for the version, is the last.
-/
def lexShort (scope : Scope) : List Char -> Except UsageError Lexed
  | [] => .ok ⟨[], none⟩
  | c :: rest =>
      match Scope.shortFlag? scope c, Scope.shortSetting? scope c with
      | some .version, _ => .ok ⟨[.flag .version], none⟩
      | some flag, _ => do
          let later <- lexShort scope rest
          .ok { later with given := .flag flag :: later.given }
      | none, some setting =>
          if rest.isEmpty then .ok ⟨[], some setting⟩
          else .ok ⟨[.setting setting (attachedValue rest)], none⟩
      | none, none => .error (.unexpected ("-" ++ String.singleton c))

def lexLong (scope : Scope) (argument : String) : Except UsageError Lexed :=
  let cs := argument.toList
  let name := String.ofList (cs.takeWhile (· != '='))
  let attached := (cs.dropWhile (· != '=')).tail?.map String.ofList
  match Scope.longFlag? scope name, Scope.longSetting? scope name, attached with
  | some flag, _, none => .ok ⟨[.flag flag], none⟩
  | some _, _, some _ => .error (.unexpected argument)
  | none, some setting, some value => .ok ⟨[.setting setting value], none⟩
  | none, some setting, none => .ok ⟨[], some setting⟩
  | none, none, _ => .error (.unexpected argument)

def isOption (argument : String) : Bool :=
  argument.toList.head? == some '-' && argument != "-"

def lexArgument (scope : Scope) (argument : String) : Except UsageError Lexed :=
  if !isOption argument then .ok ⟨[.positional argument], none⟩
  else if "--".toList.isPrefixOf argument.toList then lexLong scope argument
  else lexShort scope argument.toList.tail

structure Part where
  given : List Given
  rest : List String

/--
Reads the arguments of one part.  Before a command the part ends with the name of the command, or
where the version is asked for; after two dashes all arguments are positional.
-/
def readPart (scope : Scope) : List String -> Except UsageError Part
  | [] => .ok ⟨[], []⟩
  | argument :: rest =>
      if argument = "--" && scope.isSome then .ok ⟨rest.map .positional, []⟩
      else do
        let lexed <- lexArgument scope argument
        match lexed.open_, rest with
        | some setting, [] => .error (.missingValue setting.long)
        | some setting, value :: later =>
            if isOption value then .error (.missingValue setting.long)
            else
              let part <- readPart scope later
              .ok { part with given := lexed.given ++ .setting setting value :: part.given }
        | none, rest =>
            if scope.isNone && !isOption argument || lexed.given.contains (.flag .version) then
              .ok ⟨lexed.given, rest⟩
            else
              let part <- readPart scope rest
              .ok { part with given := lexed.given ++ part.given }

/-!
# Values

A setting that is given twice or has a value of another kind is refused.
-/

def colorOfText? (text : String) : Option Color :=
  if text = "auto" then some .auto
  else if text = "always" then some .always
  else if text = "never" then some .never
  else none

def layoutOfText? (text : String) : Option Log.Layout :=
  if text = "pretty" then some .full
  else if text = "compact" then some .compact
  else if text = "json" then some .json
  else none

namespace Given

def values (setting : Setting) (given : List Given) : List String :=
  given.filterMap fun
    | .setting s value => if s = setting then some value else none
    | _ => none

def positionals (given : List Given) : List String :=
  given.filterMap fun
    | .positional text => some text
    | _ => none

def count (flag : Flag) (given : List Given) : Nat :=
  given.countP fun
    | .flag f => f = flag
    | _ => false

def value? (setting : Setting) (given : List Given) : Except UsageError (Option String) :=
  match values setting given with
  | [] => .ok none
  | [value] => .ok (some value)
  | _ => .error (.repeated setting.long)

def parsed? {α : Type} (setting : Setting) (parse : String -> Option α) (given : List Given) :
    Except UsageError (Option α) := do
  match <- value? setting given with
  | none => .ok none
  | some value =>
      match parse value with
      | some result => .ok (some result)
      | none => .error (.invalidValue setting.long value)

def path? (setting : Setting) (given : List Given) : Except UsageError (Option Path) := do
  match <- value? setting given with
  | none => .ok none
  | some value =>
      if value = "" then .error (.missingValue setting.long) else .ok (some ⟨value⟩)

def input (given : List Given) : Except UsageError Path :=
  match positionals given with
  | [] => .error .missingInput
  | [text] => if text = "" then .error .missingInput else .ok ⟨text⟩
  | _ :: second :: _ => .error (.unexpected second)

def noInput (given : List Given) : Except UsageError Unit :=
  match positionals given with
  | [] => .ok ()
  | text :: _ => .error (.unexpected text)

def separate (given : List Given) : Except UsageError Globals := do
  let level <- parsed? .logLevel Log.Level.ofName? given
  let layout <- parsed? .logFormat layoutOfText? given
  let logFile <- path? .logFile given
  let color <- parsed? .color colorOfText? given
  .ok ⟨count .verbose given, count .quiet given, level, layout, logFile, color⟩

def globals (given : List Given) : Except UsageError Globals := do
  let globals <- separate given
  if 0 < globals.verbose && 0 < globals.quiet then .error (.conflicting "--verbose" "--quiet")
  else .ok globals

def command (name : CommandName) (given : List Given) : Except UsageError Command := do
  match name with
  | .exportScript =>
      let input <- input given
      let output <- path? .output given
      let format <- value? .type given
      .ok (.exportScript input output (format.getD "*.js"))
  | .check => .check <$> input given
  | .inspect => do
      let input <- input given
      .ok (.inspect input (0 < count .json given))
  | .format => do
      let input <- input given
      let output <- path? .output given
      .ok (.format input output)
  | .listFormats => (fun _ => .listFormats) <$> noInput given

end Given

namespace Globals

def countOr (inner outer : Nat) : Nat :=
  if inner = 0 then outer else inner

def overlay (inner outer : Globals) : Globals where
  verbose := countOr inner.verbose outer.verbose
  quiet := countOr inner.quiet outer.quiet
  level := inner.level.or outer.level
  layout := inner.layout.or outer.layout
  logFile := inner.logFile.or outer.logFile
  color := inner.color.or outer.color

def asksForLevel (globals : Globals) : Bool :=
  0 < globals.verbose || 0 < globals.quiet || globals.level.isSome

/-- Warnings unless more or less is asked for; a level by name counts before all. -/
def threshold (globals : Globals) : Log.Threshold :=
  match globals.level with
  | some level => ⟨some level⟩
  | none => .ofRank (2 + globals.verbose - globals.quiet)

end Globals

/-!
# Arguments

Where both parts say something, the one after the name of the command counts.
-/

def readCommand (outer : Globals) (name : CommandName) (arguments : List String) :
    Except UsageError Intent := do
  let part <- readPart (some name) arguments
  let inner <- Given.globals part.given
  let command <- Given.command name part.given
  .ok (.run ⟨inner.overlay outer, command⟩)

def Intent.ofArguments (arguments : List String) : Except UsageError Intent := do
  let part <- readPart none arguments
  if part.given.contains (.flag .version) then (fun _ => .showVersion) <$> Given.separate part.given
  else
    match Given.positionals part.given with
    | [] => .error .missingCommand
    | text :: _ =>
        match CommandName.ofText? text with
        | none => .error (.unknownCommand text)
        | some name => do
            let outer <- Given.globals part.given
            readCommand outer name part.rest

end CommandLine
end TutorialKit
