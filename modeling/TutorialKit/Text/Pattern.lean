import TutorialKit.Text.CodePoints

/-!
# Patterns

Regular expressions with an order of preference: of two ways to match, the first is preferred.  A
pattern is run by keeping what is left to be matched after the characters read so far, the
preferred ways first.
-/

namespace TutorialKit
namespace Text

structure CharacterSet where
  ranges : CodePoints
  inverted : Bool := false
  deriving DecidableEq

namespace CharacterSet

def contains (set : CharacterSet) (c : Char) : Bool :=
  (set.ranges.any fun range => range.1 <= c.toNat && c.toNat <= range.2) != set.inverted

def single (c : Char) : CharacterSet :=
  ⟨[(c.toNat, c.toNat)], false⟩

def ofChars (cs : List Char) : CharacterSet :=
  ⟨cs.map fun c => (c.toNat, c.toNat), false⟩

end CharacterSet

inductive Pattern where
  | empty
  | one (set : CharacterSet)
  | sequence (first second : Pattern)
  | choice (preferred other : Pattern)
  /-- Any number of times, as often as possible or as seldom as possible. -/
  | repeated (greedy : Bool) (body : Pattern)
  | textStart
  | textEnd
  deriving DecidableEq

namespace Pattern

/-- A first move: to be done with the text, or at its end only, or to read a character. -/
inductive Move where
  | stop (atEnd : Bool)
  | read (set : CharacterSet) (rest : Pattern)
  deriving DecidableEq

namespace Move

def followedBy (next : Pattern) (moves : List Move) : Move -> List Move
  | stop false => moves
  | stop true => moves.filter (· matches stop _) |>.map fun _ => stop true
  | read set rest => [read set (sequence rest next)]

def isRead : Move -> Bool
  | read _ _ => true
  | stop _ => false

end Move

def moves (atStart : Bool) : Pattern -> List Move
  | empty => [.stop false]
  | one set => [.read set empty]
  | sequence first second =>
      (moves atStart first).flatMap (Move.followedBy second (moves atStart second))
  | choice preferred other => moves atStart preferred ++ moves atStart other
  | repeated greedy body =>
      let again := ((moves atStart body).filter Move.isRead).flatMap
        (Move.followedBy (repeated greedy body) [])
      if greedy then again ++ [.stop false] else .stop false :: again
  | textStart => if atStart then [.stop false] else []
  | textEnd => [.stop true]

/-!
# Runs

What is left of every way to match is carried along, the preferred ways first.
-/

/-- What is left of the moves up to the first that is done: the others are less preferred. -/
def preferred : List Move -> List Move
  | [] => []
  | .stop false :: _ => [.stop false]
  | move :: rest => move :: preferred rest

def advance (moves : List Move) (c : Char) : List Pattern :=
  (moves.filterMap fun
    | .read set rest => if set.contains c then some rest else none
    | .stop _ => none).eraseDups

def isDone (moves : List Move) : Bool :=
  moves.any (!·.isRead)

/--
A search for the pattern anywhere in a text, in which ways that began earlier are preferred.  A
new way is begun at each character as long as none is done.
-/
def search (pattern : Pattern) (atStart searching : Bool) (left : List Pattern) :
    List Char -> Bool
  | [] => isDone (preferred (candidates pattern atStart searching left))
  | c :: rest =>
      let moves := preferred (candidates pattern atStart searching left)
      search pattern false (searching && !moves.contains (.stop false)) (advance moves c) rest
where
  candidates (pattern : Pattern) (atStart searching : Bool) (left : List Pattern) : List Move :=
    left.flatMap (moves atStart) ++ if searching then moves atStart pattern else []

def endsIn (pattern : Pattern) (text : String) : Bool :=
  search pattern true true [] text.toList

/-!
# Beginnings

A match at the beginning of a text is as long as the preferred way makes it.
-/

def reach (left : List Pattern) (read : Nat) (best : Option Nat) : List Char -> Option Nat
  | [] => if isDone (left.flatMap (moves false)) then some read else best
  | c :: rest =>
      let moves := preferred (left.flatMap (moves false))
      let best := if moves.contains (.stop false) then some read else best
      match advance moves c with
      | [] => best
      | left => reach left (read + 1) best rest

def matchLength? (pattern : Pattern) (cs : List Char) : Option Nat :=
  reach [pattern] 0 none cs

def char (c : Char) : Pattern :=
  one (.single c)

def anyOf (cs : List Char) : Pattern :=
  one (.ofChars cs)

def many (body : Pattern) : Pattern :=
  repeated true body

def optional (body : Pattern) : Pattern :=
  choice body empty

def upTo : Nat -> Pattern -> Pattern
  | 0, _ => empty
  | n + 1, body => optional (sequence body (upTo n body))

def all : List Pattern -> Pattern
  | [] => empty
  | [pattern] => pattern
  | pattern :: rest => sequence pattern (all rest)

end Pattern

end Text
end TutorialKit
