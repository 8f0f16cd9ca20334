import TutorialKit.Storage.Path
import TutorialKit.Text.Utf8

/-!
# Tasks that use files

A task asks the file system one request after the other, each depending on the answers so far, and
emits events meanwhile.  It says what is asked and in which order, and leaves open what answers.
-/

namespace TutorialKit

inductive SystemError where
  | noEntry
  | busy
  | alreadyExists
  | notDirectory
  | isDirectory
  | nameTooLong
  | other (code : Nat) (text : String)
  | nulInName
  | directoryGiven
  | entityNotFound
  deriving DecidableEq

namespace SystemError

def numbered (text : String) (code : Nat) : String :=
  text ++ " (os error " ++ toString code ++ ")"

def message : SystemError -> String
  | noEntry => numbered "No such file or directory" 2
  | busy => numbered "Device or resource busy" 16
  | alreadyExists => numbered "File exists" 17
  | notDirectory => numbered "Not a directory" 20
  | isDirectory => numbered "Is a directory" 21
  | nameTooLong => numbered "File name too long" 36
  | other code text => numbered text code
  | nulInName => "file name contained an unexpected NUL byte"
  | directoryGiven => "is a directory"
  | entityNotFound => "entity not found"

end SystemError

/-- `create` makes an empty file, or empties one that is there. -/
inductive FileRequest where
  | isDirectory (path : Path)
  | read (path : Path)
  | makeDirectory (path : Path)
  | create (path : Path)
  | write (path : Path) (bytes : Text.Bytes)
  | sync (path : Path)
  | rename (source target : Path)
  | remove (path : Path)
  | openLog (path : Path)
  | appendToLog (bytes : Text.Bytes)
  deriving DecidableEq

namespace FileRequest

@[reducible] def Answer : FileRequest -> Type
  | isDirectory _ => Bool
  | read _ => Except SystemError Text.Bytes
  | _ => Except SystemError Unit

end FileRequest

inductive FileTask (ε α : Type) where
  | done (value : α)
  | emit (event : ε) (next : FileTask ε α)
  | ask (request : FileRequest) (next : request.Answer -> FileTask ε α)

namespace FileTask

variable {ε δ α β : Type}

def bind (f : α -> FileTask ε β) : FileTask ε α -> FileTask ε β
  | done value => f value
  | emit event next => emit event (bind f next)
  | ask request next => ask request fun answer => bind f (next answer)

instance : Monad (FileTask ε) where
  pure := done
  bind task f := task.bind f

def request (r : FileRequest) : FileTask ε r.Answer :=
  ask r done

def report (event : ε) : FileTask ε Unit :=
  emit event (done ())

/-- Replaces every event by the task that deals with it. -/
def relay (handle : ε -> FileTask δ Unit) : FileTask ε α -> FileTask δ α
  | done value => done value
  | emit event next => bind (fun _ => relay handle next) (handle event)
  | ask request next => ask request fun answer => relay handle (next answer)

end FileTask

end TutorialKit
