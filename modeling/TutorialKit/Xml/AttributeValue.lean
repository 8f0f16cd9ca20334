import TutorialKit.Xml.Reference

/-!
# Values of attributes

The references in a value are resolved from left to right.  Offsets in errors count the bytes of
the value.
-/

namespace TutorialKit
namespace Xml

inductive ValueError where
  | unterminated (start finish : Nat)
  | unrecognized (start finish : Nat) (name : List Char)
  | number (error : NumberError)
  deriving DecidableEq

namespace ValueError

def message : ValueError -> String
  | unterminated start finish =>
      "Error while escaping character at range " ++ toString start ++ ".." ++ toString finish ++
        ": Cannot find ';' after '&'"
  | unrecognized start finish name =>
      "at " ++ toString start ++ ".." ++ toString finish ++ ": unrecognized entity \x60" ++
        String.ofList name ++ "\x60"
  | number error => error.message

end ValueError

inductive ValueMode where
  | plain
  | reference (start : Nat) (held : List Char)

def resolveInValue (start finish : Nat) (name : List Char) : Except ValueError Char :=
  match resolve name with
  | .ok c => .ok c
  | .error (.number error) => .error (.number error)
  | .error (.undeclared name) => .error (.unrecognized (start + 1) finish name)

/-- `size` is the length of the whole value and `offset` the place of the next character. -/
def unescapeFrom (size : Nat) (mode : ValueMode) (offset : Nat) :
    List Char -> Except ValueError (List Char)
  | [] =>
      match mode with
      | .plain => .ok []
      | .reference start _ => .error (.unterminated start size)
  | c :: rest =>
      let next := offset + c.utf8Size
      match mode with
      | .plain =>
          if c = '&' then unescapeFrom size (.reference offset []) next rest
          else (c :: ·) <$> unescapeFrom size .plain next rest
      | .reference start held =>
          if c = '&' then .error (.unterminated start size)
          else if c = ';' then do
            let resolved <- resolveInValue start offset held.reverse
            let more <- unescapeFrom size .plain next rest
            pure (resolved :: more)
          else unescapeFrom size (.reference start (c :: held)) next rest

def unescapeValue (cs : List Char) : Except ValueError (List Char) :=
  unescapeFrom (utf8Length cs) .plain 0 cs

end Xml
end TutorialKit
