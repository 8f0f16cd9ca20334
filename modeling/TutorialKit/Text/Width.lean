import TutorialKit.Text.Emoji
import TutorialKit.Text.Weightless
import TutorialKit.Text.Wide

/-!
# Display width

The number of columns a text takes in a fixed-width font.  Most characters take one column, wide
ones two and weightless ones none, but some sequences are drawn as one sign: letters that form a
ligature, pictures that are joined, and characters with a selector for their look.

A text is measured from its end.  `Ahead` says what the rest of the text begins with, as far as
that matters to the character in front of it.
-/

namespace TutorialKit
namespace Text

/--
What a text begins with, as far as a character in front of it can join it.  `joined` tells that a
joiner stands before it.
-/
inductive Opening where
  | plain
  | lineFeed
  /-- Arabic: an alef, after which a lam is no sign of its own. -/
  | alef
  /-- Hebrew: a lamed, drawn as one with an alef. -/
  | lamed (joined : Bool)
  /-- Khmer: a letter that can stand below another. -/
  | subscriptLetter
  /-- Buginese: a ya, drawn as one with an a that has the vowel i. -/
  | ya (joined : Bool)
  | vowelAndYa
  /-- Tifinagh: a consonant, drawn as one with another. -/
  | consonant (joined : Bool)
  | joinerAndConsonant
  /-- Lisu: the second letter of a double tone. -/
  | secondTone
  /-- Old Turkic: the letter i, drawn as one with a final letter. -/
  | runicI (joined : Bool)
  /-- Kirat Rai: the halves of composed vowels. -/
  | vowelE
  | vowelAi
  | picture
  | skinTone
  | flagLetter
  | flagLetters
  /-- A joiner and a picture. -/
  | joinedPicture
  | joinedKeycap
  | joinedFlagLetter
  | joinedFlag
  | joinedFlagAndLetter
  /-- The end of the name of a region, of so many letters and digits, and a joined picture. -/
  | joinedRegion (letters digits : Nat)
  deriving DecidableEq, Inhabited

inductive Selector where
  | symbol
  | picture
  | fullwidth
  deriving DecidableEq

structure Ahead where
  opening : Opening := .plain
  selector : Option Selector := none
  deriving DecidableEq, Inhabited

structure Measure where
  columns : Nat
  ahead : Ahead
  deriving DecidableEq, Inhabited

namespace Opening

/-- Letters that join across invisible marks and joiners. -/
def joinsAcrossMarks : Opening -> Bool
  | lamed _ | subscriptLetter | ya _ | vowelAndYa | consonant _ | joinerAndConsonant | secondTone
  | runicI _ | vowelE | vowelAi => true
  | _ => false

/-- A selector between letters does not keep them apart. -/
def outlastsSelector (opening : Opening) : Bool :=
  opening == alef || opening.joinsAcrossMarks

def awaitsPicture (opening : Opening) : Bool :=
  opening == joinedPicture || opening == joinedKeycap

def join : Opening -> Opening
  | lamed _ => lamed true
  | ya _ => ya true
  | consonant _ => consonant true
  | runicI _ => runicI true
  | opening => opening

def tiesPictures : Opening -> Bool
  | picture | skinTone | flagLetters | joinedFlag | joinedFlagAndLetter => true
  | _ => false

end Opening

/-!
# Characters that open a sequence

Which sequences a character may open is told by its code point.
-/

def isAlef (n : Nat) : Bool :=
  [0x622, 0x623, 0x625, 0x627, 0x671, 0x672, 0x673, 0x675, 0x773, 0x774].contains n ||
    (0x870 <= n && n <= 0x882)

def isLam (n : Nat) : Bool :=
  n == 0x644 || (0x6B5 <= n && n <= 0x6B8) || n == 0x76A || n == 0x8A6 || n == 0x8C7

/-- Khmer letters that are drawn below another one after the sign for it. -/
def subscriptCodePoints : CodePoints :=
  [
   (0x1780, 0x1782), (0x1784, 0x1787), (0x1789, 0x178C), (0x178E, 0x1793), (0x1795, 0x1798),
   (0x179B, 0x179D), (0x17A0, 0x17A0), (0x17A2, 0x17A2), (0x17A7, 0x17A7), (0x17AB, 0x17AC),
   (0x17AF, 0x17AF)
  ]

def isTifinaghConsonant (n : Nat) : Bool :=
  (0x2D31 <= n && n <= 0x2D65) || n == 0x2D6F

def isInvisibleMark (n : Nat) : Bool :=
  n == 0x34F || n == 0x17B4 || n == 0x17B5 || (0x180B <= n && n <= 0x180D) || n == 0x180F ||
    (0xFE00 <= n && n <= 0xFE0F) || (0xE0100 <= n && n <= 0xE01EF)

def isCurlyQuote (n : Nat) : Bool :=
  n == 0x2018 || n == 0x2019 || n == 0x201C || n == 0x201D

def Opening.ofCodePoint (n : Nat) : Opening :=
  if n == 0xA then .lineFeed
  else if n == 0x5DC then .lamed false
  else if isAlef n then .alef
  else if subscriptCodePoints.member n then .subscriptLetter
  else if n == 0x1A10 then .ya false
  else if isTifinaghConsonant n then .consonant false
  else if n == 0xA4FC || n == 0xA4FD then .secondTone
  else if n == 0x10C03 then .runicI false
  else if n == 0x16D67 then .vowelE
  else if n == 0x16D68 then .vowelAi
  else .plain

def Opening.ofChar (c : Char) : Opening :=
  if Emoji.isFlagLetter c then .flagLetter
  else if Emoji.isSkinTone c then .skinTone
  else if Emoji.isPicture c then .picture
  else .ofCodePoint c.toNat

def charWidth (c : Char) : Nat :=
  if c.toNat <= 0xA0 then 1
  else if c.toNat == 0x17D8 then 3
  else if isWeightless c then 0
  else if isWide c then 2
  else 1

/-!
# Sequences

`joining` is the change that a character makes when it joins what follows; most characters join
nothing.
-/

/-- What becomes of the columns of the rest. -/
inductive Change where
  | add (columns : Nat)
  | drop
  deriving DecidableEq

def Change.apply (change : Change) (columns : Nat) : Nat :=
  match change with
  | add more => columns + more
  | drop => columns - 1

def letterJoining (opening : Opening) (c : Char) : Option (Change × Opening) :=
  let n := c.toNat
  match opening with
  | .alef =>
      if isLam n then some (.add 0, .plain)
      else if isTransparent c then some (.add 0, .alef)
      else none
  | .lamed true => if n == 0x5D0 then some (.add 0, .plain) else none
  | .subscriptLetter => if n == 0x17D2 then some (.drop, .plain) else none
  | .ya true => if n == 0x1A17 then some (.add 0, .vowelAndYa) else none
  | .vowelAndYa => if n == 0x1A15 then some (.add 0, .plain) else none
  | .consonant joined =>
      if n == 0x2D7F then some (.add 1, .joinerAndConsonant)
      else if joined && isTifinaghConsonant n then some (.add 0, .plain)
      else none
  | .joinerAndConsonant => if isTifinaghConsonant n then some (.drop, .plain) else none
  | .secondTone => if 0xA4F8 <= n && n <= 0xA4FB then some (.add 0, .plain) else none
  | .runicI true => if n == 0x10C32 then some (.add 0, .plain) else none
  | .vowelE =>
      if n == 0x16D63 || n == 0x16D69 then some (.add 0, .plain)
      else if n == 0x16D67 then some (.add 0, .vowelAi)
      else if n == 0x16D68 then some (.add 1, .vowelE)
      else none
  | .vowelAi => if n == 0x16D63 then some (.add 0, .plain) else none
  | _ => none

/-- Characters inside the name of a region, from its end to its flag. -/
def regionJoining (letters digits n : Nat) : Option (Change × Opening) :=
  if n == 0x1F3F4 then
    if (digits == 0 && 3 <= letters) || digits == 3 then some (.add 0, .picture) else none
  else if 0xE0061 <= n && n <= 0xE007A then
    if digits == 0 && letters < 6 then some (.add 0, .joinedRegion (letters + 1) 0) else none
  else if 0xE0030 <= n && n <= 0xE0039 then
    if (digits == 0 && letters <= 4) || (0 < digits && digits < 3) then
      some (.add 0, .joinedRegion letters (digits + 1))
    else none
  else none

def pictureJoining (opening : Opening) (c : Char) : Option (Change × Opening) :=
  let n := c.toNat
  if n == 0x200D && opening.tiesPictures then some (.add 0, .joinedPicture)
  else
    match opening with
    | .skinTone => if Emoji.takesSkinTone c then some (.add 0, .picture) else none
    | .flagLetter | .flagLetters =>
        if Emoji.isFlagLetter c then some (.add 1, .flagLetters) else none
    | .joinedPicture =>
        if n == 0x20E3 then some (.add 0, .joinedKeycap)
        else if Emoji.isFlagLetter c then some (.add 1, .joinedFlagLetter)
        else if Emoji.isSkinTone c then some (.add 0, .skinTone)
        else if n == 0xE007F then some (.add 0, .joinedRegion 0 0)
        else if Emoji.isPicture c then some (.add 0, .picture)
        else none
    | .joinedFlagLetter | .joinedFlagAndLetter =>
        if Emoji.isFlagLetter c then some (.drop, .joinedFlag) else none
    | .joinedFlag => if Emoji.isFlagLetter c then some (.add 3, .joinedFlagAndLetter) else none
    | .joinedRegion letters digits => regionJoining letters digits n
    | _ => none

def joining (opening : Opening) (c : Char) : Option (Change × Opening) :=
  if c = '\r' && opening == .lineFeed then some (.add 0, .plain)
  else if c.toNat <= 0xA0 then none
  else if opening.joinsAcrossMarks && c.toNat == 0x200D then some (.add 0, opening.join)
  else if opening.joinsAcrossMarks && isInvisibleMark c.toNat then some (.add 0, opening)
  else (letterJoining opening c).or (pictureJoining opening c)

/-!
# Selectors

A selector chooses the look of the character in front of it.
-/

def Selector.ofChar? (c : Char) : Option Selector :=
  if c.toNat == 0xFE0E then some .symbol
  else if c.toNat == 0xFE0F then some .picture
  else if c.toNat == 0xFE01 then some .fullwidth
  else none

def Opening.behind (opening : Opening) (selector : Selector) : Opening :=
  if opening.outlastsSelector || (selector == .picture && opening.awaitsPicture) then opening
  else .plain

/-- The columns of a character with its selector, and what it then is; most ignore selectors. -/
def selected (selector : Selector) (opening : Opening) (c : Char) : Option (Nat × Opening) :=
  match selector with
  | .picture =>
      if Emoji.isSelectable c then some (if opening.awaitsPicture then 0 else 2, .picture)
      else none
  | .symbol => if Emoji.isNarrowable c then some (1, .plain) else none
  | .fullwidth => if isCurlyQuote c.toNat then some (2, .plain) else none

/-!
# Texts

The measure of a text grows by one character in front at a time.
-/

namespace Measure

def empty : Measure := ⟨0, {}⟩

def joinChar (c : Char) (columns : Nat) (opening : Opening) : Measure :=
  match joining opening c with
  | some (change, first) => ⟨change.apply columns, { opening := first }⟩
  | none => ⟨columns + charWidth c, { opening := .ofChar c }⟩

def cons (c : Char) (rest : Measure) : Measure :=
  let opening := rest.ahead.opening
  match rest.ahead.selector.bind fun selector => selected selector opening c with
  | some (columns, first) => ⟨rest.columns + columns, { opening := first }⟩
  | none =>
      let opening :=
        if rest.ahead.selector.isSome && !opening.outlastsSelector then .plain else opening
      match Selector.ofChar? c with
      | some selector => ⟨rest.columns, ⟨opening.behind selector, some selector⟩⟩
      | none => joinChar c rest.columns opening

end Measure

def width (text : String) : Nat :=
  (text.toList.foldr Measure.cons .empty).columns

end Text
end TutorialKit
