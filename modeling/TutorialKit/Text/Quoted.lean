import TutorialKit.Text.Combining
import TutorialKit.Text.Invisible

/-!
# Quoted text in messages

A text shown in a message stands between double quotes.  What would not be seen, or would merge
with its neighbours, is written as an escape.
-/

namespace TutorialKit
namespace Text
namespace Quoted

/-- Letters that are blank: the fillers of Korean syllables. -/
def isFiller (c : Char) : Bool :=
  c.toNat == 0x115F || c.toNat == 0x1160 || c.toNat == 0x3164 || c.toNat == 0xFFA0

/-- The halfwidth sound marks combine in sense only: each has a place of its own. -/
def isSoundMark (c : Char) : Bool :=
  c.toNat == 0xFF9E || c.toNat == 0xFF9F

def isHidden (c : Char) : Bool :=
  isInvisible c || isFiller c || (isCombining c && !isSoundMark c)

def escapeCode (c : Char) : List Char :=
  ['\\', 'u', '\x7b'] ++ Nat.toDigits 16 c.toNat ++ ['\x7d']

def escapeChar (c : Char) : List Char :=
  if c = '"' then ['\\', '"']
  else if c = '\\' then ['\\', '\\']
  else if c = '\n' then ['\\', 'n']
  else if c = '\r' then ['\\', 'r']
  else if c = '\t' then ['\\', 't']
  else if c.toNat = 0 then ['\\', '0']
  else if isHidden c then escapeCode c
  else [c]

def encode (text : String) : String :=
  String.ofList ('"' :: text.toList.flatMap escapeChar ++ ['"'])

end Quoted
end Text
end TutorialKit
