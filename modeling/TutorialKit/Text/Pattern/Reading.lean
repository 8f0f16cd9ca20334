import TutorialKit.Text.Blank
import TutorialKit.Text.Digit
import TutorialKit.Text.Pattern
import TutorialKit.Text.WordCharacter

/-!
# Reading patterns

The text of a pattern is cut into symbols: sets of characters and operators.  The symbols are then
put together, with a stack of the groups that are open.
-/

namespace TutorialKit
namespace Text
namespace Pattern

/-!
# Symbols

Sets in brackets and escapes become sets of characters; operators and single characters are left.
-/

inductive Symbol where
  | set (set : CharacterSet)
  | start
  | finish
  | openGroup
  | closeGroup
  | bar
  /-- Repetition: whether none will do, whether more than one will do, and which is preferred. -/
  | repetition (fromNone toMany greedy : Bool)
  deriving DecidableEq

structure Bracket where
  inverted : Bool
  ranges : CodePoints := []
  deriving DecidableEq

def Bracket.add (bracket : Bracket) (first last : Char) : Bracket :=
  { bracket with ranges := bracket.ranges ++ [(first.toNat, last.toNat)] }

def controlOfLetter? (c : Char) : Option Char :=
  if c = 'n' then some '\n'
  else if c = 't' then some '\t'
  else if c = 'r' then some '\r'
  else if c = 'f' then some '\x0c'
  else if c = 'v' then some '\x0b'
  else if c = 'a' then some '\x07'
  else none

/-- The character that an escape stands for; letters and digits are not escaped in vain. -/
def escapedChar? (c : Char) : Option Char :=
  (controlOfLetter? c).or
    (if 0x21 <= c.toNat && c.toNat <= 0x7E && !c.isAlphanum && c != '<' && c != '>' then some c
      else none)

def classOfLetter? (c : Char) : Option CharacterSet :=
  if c = 'd' then some ⟨digitCodePoints, false⟩
  else if c = 'D' then some ⟨digitCodePoints, true⟩
  else if c = 's' then some ⟨blankCodePoints, false⟩
  else if c = 'S' then some ⟨blankCodePoints, true⟩
  else if c = 'w' then some ⟨wordCodePoints, false⟩
  else if c = 'W' then some ⟨wordCodePoints, true⟩
  else none

def escaped? (c : Char) : Option Symbol :=
  if c = 'A' then some .start
  else if c = 'z' then some .finish
  else ((classOfLetter? c).or ((escapedChar? c).map CharacterSet.single)).map Symbol.set

/-- What is read next: symbols, or members of a set in brackets. -/
def symbols : Option Bracket -> List Char -> Option (List Symbol)
  | none, [] => some []
  | none, '\\' :: c :: rest => do
      let symbol <- escaped? c
      let later <- symbols none rest
      some (symbol :: later)
  | none, '[' :: '^' :: ']' :: rest => symbols (some (Bracket.add ⟨true, []⟩ ']' ']')) rest
  | none, '[' :: '^' :: rest => symbols (some ⟨true, []⟩) rest
  | none, '[' :: ']' :: rest => symbols (some (Bracket.add ⟨false, []⟩ ']' ']')) rest
  | none, '[' :: rest => symbols (some ⟨false, []⟩) rest
  | none, '(' :: '?' :: ':' :: rest => (symbols none rest).map (.openGroup :: ·)
  | none, '(' :: '?' :: _ => none
  | none, '*' :: '?' :: rest => (symbols none rest).map (.repetition true true false :: ·)
  | none, '+' :: '?' :: rest => (symbols none rest).map (.repetition false true false :: ·)
  | none, '?' :: '?' :: rest => (symbols none rest).map (.repetition true false false :: ·)
  | none, c :: rest =>
      let symbol : Option Symbol :=
        if c = '.' then some (.set ⟨[(0xA, 0xA)], true⟩)
        else if c = '^' then some .start
        else if c = '$' then some .finish
        else if c = '(' then some .openGroup
        else if c = ')' then some .closeGroup
        else if c = '|' then some .bar
        else if c = '*' then some (.repetition true true true)
        else if c = '+' then some (.repetition false true true)
        else if c = '?' then some (.repetition true false true)
        else if c = '\\' || c = '\x7b' then none
        else some (.set (.single c))
      symbol.bind fun symbol => (symbols none rest).map (symbol :: ·)
  | some _, [] => none
  | some bracket, ']' :: rest =>
      (symbols none rest).map (.set ⟨bracket.ranges, bracket.inverted⟩ :: ·)
  | some _, '[' :: _ => none
  | some bracket, '\\' :: c :: rest =>
      match classOfLetter? c, escapedChar? c with
      | some set, _ =>
          if set.inverted then none
          else symbols (some { bracket with ranges := bracket.ranges ++ set.ranges }) rest
      | none, some member => symbols (some (bracket.add member member)) rest
      | none, none => none
  | some bracket, first :: '-' :: ']' :: rest =>
      (symbols none rest).map
        (.set ⟨((bracket.add first first).add '-' '-').ranges, bracket.inverted⟩ :: ·)
  | some bracket, first :: '-' :: last :: rest =>
      if last = '\\' || last = '[' || last < first then none
      else symbols (some (bracket.add first last)) rest
  | some bracket, c :: rest => symbols (some (bracket.add c c)) rest

/-!
# Groups

An operator applies to the part before it, and a closing bracket to the group that was opened last.
-/

structure Group where
  alternatives : List Pattern := []
  parts : List Pattern := []
  deriving DecidableEq

namespace Group

def push (group : Group) (part : Pattern) : Group :=
  { group with parts := part :: group.parts }

def alternative (group : Group) : Pattern :=
  Pattern.all group.parts.reverse

def branch (group : Group) : Group :=
  ⟨group.alternative :: group.alternatives, []⟩

def close (group : Group) : Pattern :=
  group.alternatives.foldl (fun later earlier => choice earlier later) group.alternative

end Group

/-- A part once more, or often, or not at all. -/
def repetition (fromNone toMany greedy : Bool) (part : Pattern) : Pattern :=
  match fromNone, toMany with
  | true, true => repeated greedy part
  | false, _ => sequence part (repeated greedy part)
  | true, false => if greedy then choice part empty else choice empty part

def assemble (group : Group) (around : List Group) : List Symbol -> Option Pattern
  | [] => if around.isEmpty then some group.close else none
  | .set s :: rest => assemble (group.push (one s)) around rest
  | .start :: rest => assemble (group.push textStart) around rest
  | .finish :: rest => assemble (group.push textEnd) around rest
  | .openGroup :: rest => assemble {} (group :: around) rest
  | .closeGroup :: rest =>
      match around with
      | [] => none
      | outer :: more => assemble (outer.push group.close) more rest
  | .bar :: rest => assemble group.branch around rest
  | .repetition fromNone toMany greedy :: rest =>
      match group.parts with
      | [] => none
      | part :: parts =>
          assemble { group with parts := repetition fromNone toMany greedy part :: parts } around
            rest

def ofText? (text : String) : Option Pattern :=
  (symbols none text.toList).bind (assemble {} [])

end Pattern
end Text
end TutorialKit
