import TutorialKit.CommandLine.Run

/-!
# The program

Carries out the task of a run with the files of the machine.
-/

namespace TutorialKit
namespace Machine

/-- The refusal that a number of the operating system stands for. -/
def numberedError (code : UInt32) (text : String) : SystemError :=
  match code.toNat with
  | 2 => .noEntry
  | 16 => .busy
  | 17 => .alreadyExists
  | 20 => .notDirectory
  | 21 => .isDirectory
  | 36 => .nameTooLong
  | number => .other number text

def systemError : IO.Error -> SystemError
  | .alreadyExists _ code text => numberedError code text
  | .noFileOrDirectory _ code text => numberedError code text
  | .inappropriateType _ code text => numberedError code text
  | .permissionDenied _ code text => numberedError code text
  | .invalidArgument _ code text => numberedError code text
  | .resourceExhausted _ code text => numberedError code text
  | .noSuchThing _ code text => numberedError code text
  | .interrupted _ code text => numberedError code text
  | .otherError code text => numberedError code text
  | .resourceBusy code text => numberedError code text
  | .resourceVanished code text => numberedError code text
  | .unsupportedOperation code text => numberedError code text
  | .hardwareFault code text => numberedError code text
  | .unsatisfiedConstraints code text => numberedError code text
  | .illegalOperation code text => numberedError code text
  | .protocolError code text => numberedError code text
  | .timeExpired code text => numberedError code text
  | .unexpectedEof => .other 0 "unexpected end of file"
  | .userError text => .other 0 text

def attempt {α : Type} (action : IO α) : IO (Except SystemError α) := do
  match <- action.toBaseIO with
  | .ok value => pure (.ok value)
  | .error error => pure (.error (systemError error))

/-- A directory can be opened, but there is nothing to read in it. -/
def isDirectory (path : Path) : IO Bool := do
  let result <- attempt do
    let handle <- IO.FS.Handle.mk path.text .read
    handle.read 1
  match result with
  | .error .isDirectory => pure true
  | _ => pure false

def byteArray (bytes : Text.Bytes) : ByteArray :=
  ByteArray.mk bytes.toArray

def openLog (log : IO.Ref (Option IO.FS.Handle)) (path : Path) : IO Unit := do
  let handle <- IO.FS.Handle.mk path.text .append
  log.set (some handle)

def appendToLog (log : IO.Ref (Option IO.FS.Handle)) (bytes : Text.Bytes) : IO Unit := do
  match <- log.get with
  | none => pure ()
  | some handle =>
      handle.write (byteArray bytes)
      handle.flush

def answer (log : IO.Ref (Option IO.FS.Handle)) : (request : FileRequest) -> IO request.Answer
  | .isDirectory path => isDirectory path
  | .read path => attempt do
      let bytes <- IO.FS.readBinFile path.text
      pure bytes.toList
  | .makeDirectory path => attempt (IO.FS.createDir path.text)
  | .create path => attempt do
      let _ <- IO.FS.Handle.mk path.text .write
      pure ()
  | .write path bytes => attempt (IO.FS.writeBinFile path.text (byteArray bytes))
  | .sync _ => pure (.ok ())
  | .rename source target => attempt (IO.FS.rename source.text target.text)
  | .remove path => attempt (IO.FS.removeFile path.text)
  | .openLog path => attempt (openLog log path)
  | .appendToLog bytes => attempt (appendToLog log bytes)

def carryOut {α : Type} (log : IO.Ref (Option IO.FS.Handle)) : FileTask String α -> IO α
  | .done value => pure value
  | .emit line next => do
      IO.eprint line
      carryOut log next
  | .ask request next => do
      let reply <- answer log request
      carryOut log (next reply)

def run (arguments : List String) : IO UInt32 := do
  let logFilter <- IO.getEnv "RUST_LOG"
  let terminal <- (<- IO.getStderr).isTty
  let log <- IO.mkRef none
  let outcome <- carryOut log (CommandLine.run ⟨logFilter, terminal⟩ arguments)
  IO.print outcome.output
  IO.eprint outcome.errors
  pure (UInt32.ofNat outcome.exitCode)

end Machine

end TutorialKit

def main (arguments : List String) : IO UInt32 :=
  TutorialKit.Machine.run arguments
