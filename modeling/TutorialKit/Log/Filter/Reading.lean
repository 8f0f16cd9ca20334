import TutorialKit.Log.Filter
import TutorialKit.Text.Alphanumeric
import TutorialKit.Text.Blank
import TutorialKit.Text.Pattern.Reading
import TutorialKit.Text.Pieces

/-!
# Reading log filters

A filter is written as rules between commas.  A rule is a level, or a target, or a target with a
span in brackets, and may end with an equals sign and a level; fields stand in braces after the
name of the span.  A rule without a level lets everything through.
-/

namespace TutorialKit
namespace Log

/-!
# Levels

A level is given by its name, in any letter case, or by its rank.  No level lets everything through.
-/

namespace Threshold

def rankOfDigits? (cs : List Char) : Option Nat :=
  let digits := if cs.head? = some '+' then cs.tail else cs
  if digits.isEmpty || !digits.all Char.isDigit then none
  else some (digits.foldl (fun n c => 10 * n + (c.toNat - 48)) 0)

def ofText? (text : String) : Option Threshold :=
  match rankOfDigits? text.toList with
  | some rank => if rank <= 5 then some (ofRank rank) else none
  | none =>
      let name := String.ofList (text.toList.map Char.toLower)
      if name = "off" then some off else (Level.ofName? name).map fun level => ⟨some level⟩

def all : Threshold := ⟨some .trace⟩

def ofLevelText? (text : String) : Option Threshold :=
  if text = "" then some all else ofText? text

end Threshold

/-!
# Values of fields

A truth value or a number is compared as such; any other text is a pattern.
-/

namespace ValueTest

def unsigned (cs : List Char) : List Char :=
  if cs.head? = some '+' || cs.head? = some '-' then cs.tail else cs

/-- Digits with at most one point, not all missing, and maybe an exponent. -/
def isDecimal (cs : List Char) : Bool :=
  let isMark := fun (c : Char) => c == 'e' || c == 'E'
  let mantissa := cs.takeWhile fun c => !isMark c
  let exponent := (cs.dropWhile fun c => !isMark c).tail?
  mantissa.any Char.isDigit && mantissa.all (fun c => c.isDigit || c == '.') &&
    mantissa.count '.' <= 1 &&
    exponent.all fun digits => !(unsigned digits).isEmpty && (unsigned digits).all Char.isDigit

def isQuantity (text : String) : Bool :=
  text == "true" || text == "false" ||
    (let cs := (unsigned text.toList).map Char.toLower
     isDecimal cs || ["inf".toList, "infinity".toList, "nan".toList].contains cs)

def ofText? (text : String) : Option ValueTest :=
  if isQuantity text then some (.quantity text)
  else (Text.Pattern.ofText? text).map (.pattern text)

end ValueTest

def FieldTest.ofText? (text : String) : Option FieldTest :=
  if text = "" then none
  else
    match (Text.pieces (· == '=') text.toList).map String.ofList with
    | [] => none
    | [name] => some ⟨name, none⟩
    | name :: value :: _ => (ValueTest.ofText? value).map fun test => ⟨name, some test⟩

/-!
# Rules

White space around a rule does not steer its reading, but the parts of the rule are cut from the
whole text: what stands at a place of the trimmed text is taken from the same place of the whole.
-/

namespace Rule

/-- Characters that steer the reading, each with the one that is taken at its place. -/
abbrev Steered := List (Char × Char)

structure Wording where
  steered : Steered
  /-- What is left of the whole text after the places of the trimmed one. -/
  surplus : List Char

namespace Wording

def ofChars (cs : List Char) : Wording :=
  let trimmed := ((cs.dropWhile Text.isBlank).reverse.dropWhile Text.isBlank).reverse
  ⟨trimmed.zip cs, cs.drop trimmed.length⟩

def taken (steered : Steered) : String :=
  String.ofList (steered.map Prod.snd)

def remainder (source : Wording) : String :=
  taken source.steered ++ String.ofList source.surplus

/-- What stands before the first character of a kind, that character, and the rest. -/
def cut (source : Wording) (stops : Char -> Bool) : Option (String × Char × Wording) :=
  let before := source.steered.takeWhile fun pair => !stops pair.1
  match source.steered.dropWhile fun pair => !stops pair.1 with
  | [] => none
  | stop :: rest => some (taken before, stop.1, { source with steered := rest })

def first? (source : Wording) : Option Char :=
  source.steered.head?.map Prod.fst

def rest (source : Wording) : Wording :=
  { source with steered := source.steered.tail }

end Wording

def canBegin (c : Char) : Bool :=
  Text.isAlphanumeric c || c == '-' || c == ':' || c == '_'

def levelAfterSpan? (source : Wording) : Option Threshold :=
  match source.first? with
  | none => some .all
  | some '=' => Threshold.ofLevelText? source.rest.remainder
  | some _ => none

/-- A span and what follows it; an empty name before braces names no span. -/
def ofSpan? (target : Option String) (source : Wording) : Option Rule := do
  match <- source.cut fun c => c == ']' || c == '\x7b' with
  | (name, ']', after) =>
      let threshold <- levelAfterSpan? after
      some ⟨target, some name, [], threshold⟩
  | (name, _, inBraces) =>
      let (field, _, after) <- inBraces.cut (· == '\x7d')
      let field <- FieldTest.ofText? field
      if after.first? = some ']' then
        let threshold <- levelAfterSpan? after.rest
        some ⟨target, if name = "" then none else some name, [field], threshold⟩
      else none

/-- A level alone is for all targets; a target alone lets everything through. -/
def ofWord (word : String) : Rule :=
  match Threshold.ofText? word with
  | some threshold => { threshold := threshold }
  | none => { target := some word, threshold := .all }

def ofText? (text : String) : Option Rule :=
  let source := Wording.ofChars text.toList
  match source.first? with
  | none => none
  | some '[' => ofSpan? none source.rest
  | some c =>
      if !canBegin c then none
      else
        match source.cut fun c => c == '=' || c == '[' with
        | none => some (ofWord source.remainder)
        | some (target, '=', after) =>
            (Threshold.ofLevelText? after.remainder).map fun threshold =>
              { target := some target, threshold := threshold }
        | some (target, _, after) => ofSpan? (some target) after

end Rule

namespace Filter

def ofText? (text : String) : Option Filter :=
  let pieces := (Text.pieces (· == ',') text.toList).map String.ofList
  ((pieces.filter (· != "")).mapM Rule.ofText?).map Filter.mk

end Filter

end Log
end TutorialKit
