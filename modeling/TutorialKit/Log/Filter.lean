import TutorialKit.Log.Event
import TutorialKit.Text.Pattern

/-!
# Log filters

A filter is a list of rules, each with a level.  A plain rule lets through the events of the sources
whose path begins with its target, up to its level; of the rules for an event the most specific one
counts.  A rule about spans lets through what happens inside the spans that it matches.  No rule,
no event.
-/

namespace TutorialKit
namespace Log

/-- The most that is let through; nothing at all if there is no level. -/
structure Threshold where
  level : Option Level
  deriving DecidableEq, Inhabited

namespace Threshold

def off : Threshold := ⟨none⟩

def rank (threshold : Threshold) : Nat :=
  (threshold.level.map Level.rank).getD 0

def admits (threshold : Threshold) (level : Level) : Bool :=
  level.rank <= threshold.rank

def ofRank : Nat -> Threshold
  | 0 => off
  | 1 => ⟨some .error⟩
  | 2 => ⟨some .warn⟩
  | 3 => ⟨some .info⟩
  | 4 => ⟨some .debug⟩
  | _ => ⟨some .trace⟩

def highest (thresholds : List Threshold) : Threshold :=
  ofRank ((thresholds.map rank).foldl max 0)

end Threshold

inductive ValueTest where
  /-- A number or a truth value, which no text is equal to. -/
  | quantity (text : String)
  /-- The text from which a pattern was read, and the pattern. -/
  | pattern (text : String) (form : Text.Pattern)
  deriving DecidableEq

def ValueTest.passes (value : String) : ValueTest -> Bool
  | quantity _ => false
  | pattern _ form => form.endsIn value

structure FieldTest where
  name : String
  value : Option ValueTest
  deriving DecidableEq

structure Rule where
  target : Option String := none
  span : Option String := none
  fields : List FieldTest := []
  threshold : Threshold
  deriving DecidableEq

structure Filter where
  rules : List Rule
  deriving DecidableEq

/-!
# Single rules

A rule concerns an event by its source and a span by its name and the values of its fields.
-/

namespace Rule

def isPlain (rule : Rule) : Bool :=
  rule.span.isNone && rule.fields.all fun field => field.value.isNone

def isAboutSpans (rule : Rule) : Bool :=
  rule.span.isSome || !rule.fields.isEmpty

def fieldNames (rule : Rule) : List String :=
  rule.fields.map FieldTest.name

def isFor (source : Source) (rule : Rule) : Bool :=
  match rule.target with
  | none => true
  | some target => target.toList.isPrefixOf source.path.toList

def concernsEvent (event : Event) (rule : Rule) : Bool :=
  rule.isFor event.source &&
    rule.fieldNames.all (("message" :: event.fields.map Prod.fst).contains ·)

def concernsSpan (span : Span) (rule : Rule) : Bool :=
  rule.isFor span.source && rule.span.all (· == span.name) &&
    rule.fieldNames.all ((span.fields.map Prod.fst).contains ·)

def passesField (span : Span) (field : FieldTest) : Bool :=
  match field.value with
  | none => true
  | some test => (span.fields.lookup field.name).any test.passes

def matchesSpan (span : Span) (rule : Rule) : Bool :=
  rule.concernsSpan span && rule.fields.all (passesField span)

/-- Rules with a target come before one without. -/
def weight (rule : Rule) : Nat :=
  match rule.target with
  | none => 0
  | some target => target.length + 1

/-- Long targets make a rule specific, and then the fields that it names. -/
def isLessSpecific (rule other : Rule) : Bool :=
  rule.weight < other.weight ||
    (rule.weight == other.weight &&
      (rule.fields.length < other.fields.length ||
        (rule.fields.length == other.fields.length && rule.fieldNames < other.fieldNames)))

def stronger (earlier : Option Rule) (later : Rule) : Option Rule :=
  match earlier with
  | none => some later
  | some rule => if later.isLessSpecific rule then some rule else some later

def sameScope (rule other : Rule) : Bool :=
  rule.target == other.target && rule.span == other.span && rule.fields == other.fields

end Rule

/-!
# Deciding

A later rule replaces an earlier one of the same scope, and of the rules that are left the most
specific one decides.
-/

namespace Filter

def latest : List Rule -> List Rule
  | [] => []
  | rule :: rest =>
      if rest.any rule.sameScope then latest rest else rule :: latest rest

def plainRules (filter : Filter) : List Rule :=
  filter.rules.filter Rule.isPlain

def spanRules (filter : Filter) : List Rule :=
  latest (filter.rules.filter Rule.isAboutSpans)

def decisive (rules : List Rule) : Threshold :=
  match rules.foldl Rule.stronger none with
  | none => .off
  | some rule => rule.threshold

def forEvent (filter : Filter) (event : Event) : Threshold :=
  decisive (filter.plainRules.filter (Rule.concernsEvent event))

/-- The most that any rule lets through; with tests of values, that may be anything. -/
def highest (filter : Filter) : Threshold :=
  if filter.rules.any fun rule => rule.fields.any fun field => field.value.isSome then
    ⟨some .trace⟩
  else .highest (filter.rules.map Rule.threshold)

def follows (filter : Filter) (span : Span) : Bool :=
  filter.highest.admits span.level &&
    (filter.spanRules.any (Rule.concernsSpan span) ||
      (decisive (filter.plainRules.filter (Rule.isFor span.source))).admits span.level)

def inside (filter : Filter) (span : Span) : Threshold :=
  .highest ((filter.spanRules.filter (Rule.matchesSpan span)).map Rule.threshold)

/-- Whether an event is let through that happens inside a span that is followed, or in none. -/
def admits (filter : Filter) (span : Option Span) (event : Event) : Bool :=
  (span.any fun span => (filter.inside span).admits event.level) ||
    (filter.forEvent event).admits event.level

def uniform (threshold : Threshold) : Filter :=
  ⟨[{ threshold := threshold }]⟩

end Filter

end Log
end TutorialKit
