/-!
# Characters written as references

Five characters mean something in markup and are written as references everywhere.  Inside the
value of an attribute line breaks and tabs are written as references too, because a reader may
take them for spaces.
-/

namespace TutorialKit
namespace Xml

def escapeTextChar (c : Char) : List Char :=
  if c = '<' then "&lt;".toList
  else if c = '>' then "&gt;".toList
  else if c = '&' then "&amp;".toList
  else if c = '\'' then "&apos;".toList
  else if c = '"' then "&quot;".toList
  else [c]

def escapeValueChar (c : Char) : List Char :=
  if c = '\n' then "&#10;".toList
  else if c = '\r' then "&#13;".toList
  else if c = '\t' then "&#9;".toList
  else escapeTextChar c

def escapeText (cs : List Char) : List Char :=
  cs.flatMap escapeTextChar

def escapeValue (cs : List Char) : List Char :=
  cs.flatMap escapeValueChar

end Xml
end TutorialKit
