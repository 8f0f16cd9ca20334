import TutorialKit.Log.Event
import TutorialKit.Script.Format
import TutorialKit.Script.Report
import TutorialKit.Storage.StorageError

/-!
# Loading and saving

Tutorials are kept as documents and exported as scripts.  A file is never written in place: its
bytes go to a temporary file beside it, which then takes its name.
-/

namespace TutorialKit

abbrev StorageTask (α : Type) := ExceptT StorageError (FileTask Log.Event) α

namespace StorageTask

def log (event : Log.Event) : StorageTask Unit :=
  ExceptT.lift (FileTask.report event)

def isDirectory (path : Path) : StorageTask Bool :=
  ExceptT.lift (FileTask.request (.isDirectory path))

def demand {α : Type} (refused : SystemError -> StorageError)
    (task : FileTask Log.Event (Except SystemError α)) : StorageTask α :=
  ExceptT.mk ((fun answer => answer.mapError refused) <$> task)

def refuse {α : Type} (error : StorageError) : StorageTask α :=
  ExceptT.mk (pure (.error error))

end StorageTask

/-!
# Making directories

Missing directories are made from the nearest one that is there.
-/

/-- An error stands only if there is no directory at the path after all. -/
def unlessDirectory {ε : Type} (path : Path) (error : SystemError) :
    FileTask ε (Except SystemError Unit) := do
  if <- FileTask.request (.isDirectory path) then pure (.ok ()) else pure (.error error)

/--
Makes the first of the paths a directory; the others lead to it, the nearest first, and are made
where that is needed.
-/
def makeDirectories {ε : Type} : List Path -> FileTask ε (Except SystemError Unit)
  | [] => pure (.error .noEntry)
  | path :: above =>
      if path.text = "" then pure (.ok ())
      else do
        match <- FileTask.request (.makeDirectory path) with
        | .ok _ => pure (.ok ())
        | .error .noEntry =>
            match <- makeDirectories above with
            | .error error => pure (.error error)
            | .ok _ =>
                match <- FileTask.request (.makeDirectory path) with
                | .ok _ => pure (.ok ())
                | .error error => unlessDirectory path error
        | .error error => unlessDirectory path error

/-!
# Writing files

The bytes go to the temporary file first, and only a complete file takes the name of the target.
-/

open StorageTask

def temporaryPath (target : Path) (name : String) : Path :=
  target.withName (name ++ ".tmp")

def makeParent (target : Path) : StorageTask Unit :=
  match target.parent? with
  | none => pure ()
  | some parent =>
      demand (.file "create directory" parent) (makeDirectories parent.ancestors)

/-- The temporary file takes the name of the target; if it cannot, it is removed. -/
def finish (temporary target : Path) : StorageTask Unit := do
  match <- ExceptT.lift (FileTask.request (.rename temporary target)) with
  | .ok _ => pure ()
  | .error error =>
      let _ <- ExceptT.lift (FileTask.request (.remove temporary))
      refuse (.unfinished temporary target error)

def replaceFile (target : Path) (bytes : Text.Bytes) : StorageTask Unit :=
  match target.name? with
  | none => refuse (.file "write" target .directoryGiven)
  | some name => do
      let temporary := temporaryPath target name
      makeParent target
      demand (.file "create" temporary) (FileTask.request (.create temporary))
      demand (.file "write" temporary) (FileTask.request (.write temporary bytes))
      demand (.file "sync" temporary) (FileTask.request (.sync temporary))
      finish temporary target
      log ⟨.saving, .debug, "Wrote " ++ target.text, [("bytes", toString bytes.length)]⟩

/-!
# Tutorials

Loading reads a document; saving and exporting replace a file as a whole.
-/

namespace Tutorial

def stepCount (tutorial : Tutorial) : String × String :=
  ("steps", toString tutorial.steps.length)

def readFile (path : Path) : StorageTask Text.Bytes := do
  if path.name?.isNone then refuse (.file "read" path .directoryGiven)
  else if <- isDirectory path then refuse (.file "read" path .directoryGiven)
  else demand (.file "read" path) (FileTask.request (.read path))

def ofBytes (path : Path) (bytes : Text.Bytes) : Except StorageError Tutorial := do
  let text <- (Text.Utf8.decodeText bytes).mapError (.encoding path)
  (Tutorial.ofXml text).mapError (.document path)

def load (path : Path) : StorageTask Tutorial := do
  let bytes <- readFile path
  let tutorial <- ExceptT.mk (pure (ofBytes path bytes))
  log ⟨.reading, .debug, "deserialized tutorial", [tutorial.stepCount]⟩
  log ⟨.loading, .info, "Loaded tutorial from " ++ path.text, [tutorial.stepCount]⟩
  pure tutorial

def save (path : Path) (tutorial : Tutorial) : StorageTask Unit := do
  let bytes := Text.Utf8.encodeText tutorial.toXml
  log ⟨.writing, .debug, "serialized tutorial",
    [tutorial.stepCount, ("bytes", toString bytes.length)]⟩
  replaceFile path bytes
  log ⟨.saving, .info, "Saved tutorial to " ++ path.text, [tutorial.stepCount]⟩

def script (format : Script.Format) (tutorial : Tutorial) : StorageTask String := do
  let script := format.render tutorial
  log ⟨.scripts, .debug, "exported tutorial",
    [tutorial.stepCount, ("errors", toString (Script.markerCount script))]⟩
  pure script

def saveScript (format : Script.Format) (path : Path) (tutorial : Tutorial) :
    StorageTask String := do
  let script <- tutorial.script format
  replaceFile path (Text.Utf8.encodeText script)
  log ⟨.saving, .info, "Exported tutorial to " ++ path.text, [("exporter", format.entry)]⟩
  pure script

end Tutorial

end TutorialKit
