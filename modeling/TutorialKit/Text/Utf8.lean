/-!
# UTF-8

Texts and their bytes.  Decoding names the first place where the bytes are no text: a sequence
that cannot be continued, with the number of its bytes, or one that the end cuts short.
-/

namespace TutorialKit
namespace Text

abbrev Bytes := List UInt8

namespace Utf8

def encode (cs : List Char) : Bytes :=
  cs.flatMap String.utf8EncodeChar

def encodeText (text : String) : Bytes :=
  encode text.toList

def size (cs : List Char) : Nat :=
  (encode cs).length

theorem encode_append (cs ds : List Char) :
    encode (cs ++ ds) = encode cs ++ encode ds := by
  simp [encode]

@[simp] theorem size_nil : size [] = 0 := rfl

@[simp] theorem size_append (cs ds : List Char) : size (cs ++ ds) = size cs + size ds := by
  rw [size, encode_append, List.length_append]
  rfl

theorem size_cons (c : Char) (cs : List Char) : size (c :: cs) = c.utf8Size + size cs := by
  rw [size, encode, List.flatMap_cons, List.length_append, String.length_utf8EncodeChar]
  rfl

inductive Fault where
  | invalid (index length : Nat)
  | incomplete (index : Nat)
  deriving DecidableEq

namespace Fault

def message : Fault -> String
  | invalid index length =>
      "invalid utf-8 sequence of " ++ toString length ++ " bytes from index " ++ toString index
  | incomplete index => "incomplete utf-8 byte sequence from index " ++ toString index

end Fault

inductive Lead where
  | alone
  | opens (following : Nat) (low high : UInt8)
  | none

/--
The number of bytes that follow, and the range of the first of them.  The narrower ranges leave
out overlong forms, surrogates and numbers above the last code point.
-/
def Lead.ofByte (b : UInt8) : Lead :=
  if b < 0x80 then .alone
  else if b < 0xC2 then .none
  else if b < 0xE0 then .opens 1 0x80 0xBF
  else if b = 0xE0 then .opens 2 0xA0 0xBF
  else if b = 0xED then .opens 2 0x80 0x9F
  else if b < 0xF0 then .opens 2 0x80 0xBF
  else if b = 0xF0 then .opens 3 0x90 0xBF
  else if b < 0xF4 then .opens 3 0x80 0xBF
  else if b = 0xF4 then .opens 3 0x80 0x8F
  else .none

def payload (b : UInt8) : Nat :=
  b.toNat % 64

def leadPayload (b : UInt8) (following : Nat) : Nat :=
  if following = 1 then b.toNat % 32
  else if following = 2 then b.toNat % 16
  else b.toNat % 8

/-- Where decoding stands within a sequence. -/
inductive Pending where
  | idle
  | within (start taken remaining : Nat) (low high : UInt8) (value : Nat)

def decodeFrom (index : Nat) : Pending -> Bytes -> Except Fault (List Char)
  | .idle, [] => .ok []
  | .within start .., [] => .error (.incomplete start)
  | .idle, b :: rest =>
      match Lead.ofByte b with
      | .alone => (Char.ofNat b.toNat :: ·) <$> decodeFrom (index + 1) .idle rest
      | .opens following low high =>
          decodeFrom (index + 1) (.within index 1 following low high (leadPayload b following)) rest
      | .none => .error (.invalid index 1)
  | .within start taken remaining low high value, b :: rest =>
      if low <= b && b <= high then
        if remaining <= 1 then
          (Char.ofNat (value * 64 + payload b) :: ·) <$> decodeFrom (index + 1) .idle rest
        else
          decodeFrom (index + 1)
            (.within start (taken + 1) (remaining - 1) 0x80 0xBF (value * 64 + payload b)) rest
      else .error (.invalid start taken)

def decode (bytes : Bytes) : Except Fault (List Char) :=
  decodeFrom 0 .idle bytes

def decodeText (bytes : Bytes) : Except Fault String :=
  String.ofList <$> decode bytes

end Utf8
end Text
end TutorialKit
