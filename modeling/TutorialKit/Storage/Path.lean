import TutorialKit.Text.Pieces

/-!
# Paths

A path is a text.  The segments between its slashes are names of directories and files; an empty
segment leads nowhere, nor does a single dot, unless the path begins with it.  A path that begins
with an empty segment starts at the root.
-/

namespace TutorialKit

structure Path where
  text : String
  deriving DecidableEq, Inhabited

namespace Path

/-!
# Segments

A path is cut at its slashes, and the segments that lead nowhere are told apart.
-/

def segments (path : Path) : List String :=
  (Text.pieces (· == '/') path.text.toList).map String.ofList

def ofSegments (segments : List String) : Path :=
  ⟨"/".intercalate segments⟩

def isAbsolute (path : Path) : Bool :=
  path.text.toList.head? == some '/'

def hasTrailingSlash (path : Path) : Bool :=
  path.text.toList.getLast? == some '/'

def isStep (segment : String) (earlier : List String) : Bool :=
  segment != "" && (segment != "." || earlier.isEmpty)

def lastStep? : List String -> Option (String × List String)
  | [] => none
  | segment :: earlier =>
      if isStep segment earlier then some (segment, earlier) else lastStep? earlier

/-!
# Parents

The parent of a path is the path without its last step, whatever leads nowhere behind that.
-/

def stepsDown : List String -> List Path
  | [] => [⟨""⟩]
  | [segment] => if segment = "" then [⟨"/"⟩] else [⟨segment⟩, ⟨""⟩]
  | segment :: earlier =>
      if isStep segment earlier then ofSegments (segment :: earlier).reverse :: stepsDown earlier
      else stepsDown earlier

/-- The path itself, without what leads nowhere at its end, and all paths above it. -/
def ancestors (path : Path) : List Path :=
  if path.text = "" then [path] else stepsDown path.segments.reverse

def parent? (path : Path) : Option Path :=
  path.ancestors.tail.head?

/-!
# Names

A path has a name only if its last step is one; two dots are no name.
-/

def name? (path : Path) : Option String :=
  match lastStep? path.segments.reverse with
  | none => none
  | some (segment, _) => if segment = "." || segment = ".." then none else some segment

def child (path : Path) (name : String) : Path :=
  if path.text = "" then ⟨name⟩
  else if path.hasTrailingSlash then ⟨path.text ++ name⟩
  else ⟨path.text ++ "/" ++ name⟩

def withName (path : Path) (name : String) : Path :=
  if path.name?.isSome then (path.parent?.getD ⟨""⟩).child name else path.child name

/-!
# Extensions

A name is split at its last dot, unless that is its first character.
-/

def splitAtLastDot (cs : List Char) : Option (List Char × List Char) :=
  let extension := cs.reverse.takeWhile (· != '.')
  match cs.reverse.dropWhile (· != '.') with
  | [] => none
  | _ :: stem => some (stem.reverse, extension.reverse)

/--
A name with another extension.  Without an extension, which is also the case when the only dot is
at the beginning, it is added.  What is left of a name without its extension may be two dots, and
then it is no name.
-/
def renameExtension (name extension : String) : String :=
  match splitAtLastDot name.toList with
  | none => name ++ "." ++ extension
  | some ([], _) => name ++ "." ++ extension
  | some (['.'], _) => ".."
  | some (stem, _) => String.ofList stem ++ "." ++ extension

def withExtension (path : Path) (extension : String) : Path :=
  match path.name?, lastStep? path.segments.reverse with
  | some name, some (_, earlier) =>
      ofSegments (renameExtension name extension :: earlier).reverse
  | _, _ => path

end Path

end TutorialKit
