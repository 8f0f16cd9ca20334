import TutorialKit.Xml.Blank

/-!
# References

A reference between `&` and `;` stands for one character: by its number, decimal or hexadecimal,
or by one of five names.
-/

namespace TutorialKit
namespace Xml

inductive NumberError where
  | signed
  | empty
  | invalidDigit
  | tooLarge
  | zero
  | noCharacter (code : Nat)
  deriving DecidableEq

inductive ReferenceError where
  | number (error : NumberError)
  | undeclared (name : List Char)
  deriving DecidableEq

namespace NumberError

def detail : NumberError -> String
  | signed => "unexpected number sign"
  | empty => "cannot parse integer from empty string"
  | invalidDigit => "invalid digit found in string"
  | tooLarge => "number too large to fit in target type"
  | zero => "0x0 character is not permitted in XML"
  | noCharacter code => "\x60" ++ toString code ++ "\x60 is not a valid codepoint"

def message (error : NumberError) : String :=
  "invalid character reference: " ++ error.detail

end NumberError

def digitValue? (radix : Nat) (c : Char) : Option Nat :=
  let value? :=
    if '0' <= c && c <= '9' then some (c.toNat - '0'.toNat)
    else if 'a' <= c && c <= 'f' then some (c.toNat - 'a'.toNat + 10)
    else if 'A' <= c && c <= 'F' then some (c.toNat - 'A'.toNat + 10)
    else none
  value?.filter (· < radix)

/-- Numbers are held in 32 bits. -/
def numberLimit : Nat := 0x100000000

/-- The digits are taken from left to right and the first fault counts. -/
def numberFrom (radix value : Nat) : List Char -> Except NumberError Nat
  | [] => .ok value
  | c :: rest =>
      match digitValue? radix c with
      | none => .error .invalidDigit
      | some digit =>
          if value * radix + digit < numberLimit then numberFrom radix (value * radix + digit) rest
          else .error .tooLarge

def number (radix : Nat) : List Char -> Except NumberError Nat
  | [] => .error .empty
  | c :: rest => if c = '+' || c = '-' then .error .signed else numberFrom radix 0 (c :: rest)

def characterOfCode (code : Nat) : Except NumberError Char :=
  if code = 0 then .error .zero
  else if code.isValidChar then .ok (Char.ofNat code)
  else .error (.noCharacter code)

def numericReference : List Char -> Except NumberError Char
  | 'x' :: digits => number 16 digits >>= characterOfCode
  | digits => number 10 digits >>= characterOfCode

def predefined? (name : List Char) : Option Char :=
  if name = "lt".toList then some '<'
  else if name = "gt".toList then some '>'
  else if name = "amp".toList then some '&'
  else if name = "apos".toList then some '\''
  else if name = "quot".toList then some '"'
  else none

def resolve : List Char -> Except ReferenceError Char
  | '#' :: digits => (numericReference digits).mapError .number
  | name =>
      match predefined? name with
      | some c => .ok c
      | none => .error (.undeclared name)

end Xml
end TutorialKit
