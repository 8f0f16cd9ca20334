import TutorialKit.Storage.FileTask

/-!
# File systems as values

A file system is a finite collection of directories and files.  A path is followed from the root
or from the working directory, one segment at a time, through directories that exist.  The log is
a file that is held open: it stays the same file when it is renamed, and is out of reach once
another file has taken its place.
-/

namespace TutorialKit

abbrev Location := List String

inductive Entry where
  | directory
  | file (bytes : Text.Bytes)
  deriving DecidableEq, Inhabited

/--
The entries by their locations, the working directory, and the location of the log.  There are no
links: an entry is reached under its own location alone, and a file has no other name.
-/
structure Files where
  entries : List (Location × Entry) := []
  here : Location := []
  log : Option Location := none
  deriving Inhabited

namespace Files

def entry? (location : Location) (files : Files) : Option Entry :=
  if location = [] then some .directory else files.entries.lookup location

def erase (location : Location) (files : Files) : Files :=
  { files with entries := files.entries.filter fun entry => entry.1 != location }

def put (location : Location) (entry : Entry) (files : Files) : Files :=
  { files with
    entries := (location, entry) :: files.entries.filter fun entry => entry.1 != location }

/-- Puts an entry, and directories wherever there is nothing on the way to it. -/
def putWithParents (location : Location) (entry : Entry) (files : Files) : Files :=
  let parents := (List.range location.length).map location.take
  let lacking := parents.filter fun parent : Location => (files.entry? parent).isNone
  (lacking.foldl (fun files parent => files.put parent .directory) files).put location entry

def empty (here : Location) : Files :=
  { ({} : Files).putWithParents here .directory with here := here }

/-!
# Following a path

A name or a path that is too long is refused, and so is a way through something that is no
directory.
-/

def maxNameBytes : Nat := 255

def maxPathBytes : Nat := 4096

def child? (directory : Location) (name : String) (files : Files) :
    Except SystemError (Option Entry) :=
  if name.utf8ByteSize > maxNameBytes then .error .nameTooLong
  else .ok (files.entry? (directory ++ [name]))

def enter (files : Files) (directory : Location) (segment : String) :
    Except SystemError Location :=
  if segment = "." then .ok directory
  else if segment = ".." then .ok directory.dropLast
  else
    match files.child? directory segment with
    | .error error => .error error
    | .ok none => .error .noEntry
    | .ok (some (.file _)) => .error .notDirectory
    | .ok (some .directory) => .ok (directory ++ [segment])

/-- The end of a path: a directory reached by dots alone, or a name that may be there or not. -/
inductive Place where
  | directory (location : Location)
  | named (directory : Location) (name : String) (slash : Bool)

def placeIn (directory : Location) (slash : Bool) (last : String) : Place :=
  if last = "." then .directory directory
  else if last = ".." then .directory directory.dropLast
  else .named directory last slash

def start (path : Path) (files : Files) : Location :=
  if path.isAbsolute then [] else files.here

def place (path : Path) (files : Files) : Except SystemError Place :=
  if path.text.toList.contains '\x00' then .error .nulInName
  else if path.text = "" then .error .noEntry
  else if path.text.utf8ByteSize >= maxPathBytes then .error .nameTooLong
  else
    let segments := path.segments.filter (· != "")
    match segments.getLast? with
    | none => .ok (.directory (files.start path))
    | some last => do
        let directory <- segments.dropLast.foldlM files.enter (files.start path)
        .ok (placeIn directory path.hasTrailingSlash last)

/-!
# Answers

A request that is refused changes nothing.
-/

def isDirectory (path : Path) (files : Files) : Bool :=
  match files.place path with
  | .error _ => false
  | .ok (.directory _) => true
  | .ok (.named directory name _) =>
      match files.child? directory name with
      | .ok (some .directory) => true
      | _ => false

def read (path : Path) (files : Files) : Except SystemError Text.Bytes := do
  match <- files.place path with
  | .directory _ => .error .isDirectory
  | .named directory name slash =>
      match <- files.child? directory name with
      | none => .error .noEntry
      | some .directory => .error .isDirectory
      | some (.file bytes) => if slash then .error .notDirectory else .ok bytes

def makeDirectory (path : Path) (files : Files) : Except SystemError Files := do
  match <- files.place path with
  | .directory _ => .error .alreadyExists
  | .named directory name _ =>
      match <- files.child? directory name with
      | some _ => .error .alreadyExists
      | none => .ok (files.put (directory ++ [name]) .directory)

def writable (path : Path) (files : Files) :
    Except SystemError (Location × Option Text.Bytes) := do
  match <- files.place path with
  | .directory _ => .error .isDirectory
  | .named directory name slash =>
      if slash then .error .isDirectory
      else
        match <- files.child? directory name with
        | some .directory => .error .isDirectory
        | some (.file bytes) => .ok (directory ++ [name], some bytes)
        | none => .ok (directory ++ [name], none)

def create (path : Path) (files : Files) : Except SystemError Files := do
  let (location, _) <- files.writable path
  .ok (files.put location (.file []))

def write (path : Path) (bytes : Text.Bytes) (files : Files) : Except SystemError Files := do
  match <- files.writable path with
  | (_, none) => .error .noEntry
  | (location, some _) => .ok (files.put location (.file bytes))

/-- The log after the file at `source` has become the one at `target`. -/
def logAfterRename (source target : Location) (log : Option Location) : Option Location :=
  if log = some source then some target
  else if log = some target then none
  else log

def rename (source target : Path) (files : Files) : Except SystemError Files := do
  match <- files.place source, <- files.place target with
  | .directory _, _ => .error .busy
  | _, .directory _ => .error .busy
  | .named fromDirectory fromName fromSlash, .named toDirectory toName toSlash =>
      match <- files.child? fromDirectory fromName, <- files.child? toDirectory toName with
      | none, _ => .error .noEntry
      | some .directory, _ => .error .isDirectory
      | some (.file bytes), present =>
          if fromSlash || toSlash then .error .notDirectory
          else if present = some .directory then .error .isDirectory
          else
            let from_ := fromDirectory ++ [fromName]
            let to_ := toDirectory ++ [toName]
            .ok { (files.erase from_).put to_ (.file bytes) with
              log := logAfterRename from_ to_ files.log }

def remove (path : Path) (files : Files) : Except SystemError Files := do
  match <- files.place path with
  | .directory _ => .error .isDirectory
  | .named directory name slash =>
      match <- files.child? directory name with
      | none => .error .noEntry
      | some .directory => .error .isDirectory
      | some (.file _) =>
          if slash then .error .notDirectory
          else
            let location := directory ++ [name]
            .ok { files.erase location with
              log := files.log.filter (· != location) }

def openLog (path : Path) (files : Files) : Except SystemError Files := do
  let (location, present) <- files.writable path
  .ok { files.put location (.file (present.getD [])) with log := some location }

/-- Appends to the log; if it is out of reach, nothing changes. -/
def appendToLog (bytes : Text.Bytes) (files : Files) : Files :=
  match files.log with
  | none => files
  | some location =>
      match files.entry? location with
      | some (.file present) => files.put location (.file (present ++ bytes))
      | _ => files

def settle (files : Files) (result : Except SystemError Files) :
    Files × Except SystemError Unit :=
  match result with
  | .ok changed => (changed, .ok ())
  | .error error => (files, .error error)

def answer (files : Files) : (request : FileRequest) -> Files × request.Answer
  | .isDirectory path => (files, files.isDirectory path)
  | .read path => (files, files.read path)
  | .makeDirectory path => files.settle (files.makeDirectory path)
  | .create path => files.settle (files.create path)
  | .write path bytes => files.settle (files.write path bytes)
  | .sync _ => (files, .ok ())
  | .rename source target => files.settle (files.rename source target)
  | .remove path => files.settle (files.remove path)
  | .openLog path => files.settle (files.openLog path)
  | .appendToLog bytes => (files.appendToLog bytes, .ok ())

end Files

/-!
# Runs

A task is carried out request by request; its events are kept in order.
-/

structure Finished (ε α : Type) where
  files : Files
  events : List ε
  value : α

namespace FileTask

variable {ε α β : Type}

def run (files : Files) : FileTask ε α -> Finished ε α
  | done value => ⟨files, [], value⟩
  | emit event next =>
      let finished := run files next
      { finished with events := event :: finished.events }
  | ask request next =>
      let (changed, answer) := files.answer request
      run changed (next answer)

end FileTask

end TutorialKit
