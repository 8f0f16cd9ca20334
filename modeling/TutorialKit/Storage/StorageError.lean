import TutorialKit.Document.Reading
import TutorialKit.Document.Written
import TutorialKit.Storage.FileTask

/-!
# Storage errors

Why a tutorial could not be loaded, saved or exported, in words for a log and in words for the
user, with a hint where there is something to try.
-/

namespace TutorialKit

inductive StorageError where
  | file (operation : String) (path : Path) (cause : SystemError)
  | document (path : Path) (cause : ReadError)
  | encoding (path : Path) (cause : Text.Utf8.Fault)
  | writing (cause : WriteError)
  | unfinished (temporary target : Path) (cause : SystemError)
  deriving DecidableEq

namespace StorageError

def cause : StorageError -> String
  | file _ _ cause => cause.message
  | document _ cause => cause.message
  | encoding _ cause => cause.message
  | writing cause => cause.message
  | unfinished _ _ cause => cause.message

def message : StorageError -> String
  | file operation path _ => "Failed to " ++ operation ++ " file: " ++ path.text
  | document path cause => "Failed to read tutorial from " ++ path.text ++ ": " ++ cause.message
  | encoding path _ => "Tutorial file is not valid UTF-8: " ++ path.text
  | writing _ => "Failed to serialize tutorial"
  | unfinished .. => "Failed to complete save operation"

def userMessage : StorageError -> String
  | file operation path _ => "Could not " ++ operation ++ " the file at " ++ path.text
  | document path cause =>
      "The file at " ++ path.text ++ " could not be loaded: " ++ cause.message
  | encoding path _ => "The file at " ++ path.text ++ " is not a UTF-8 text file."
  | writing _ => "An error occurred while writing the tutorial."
  | unfinished _ target _ =>
      "Could not save the file to " ++ target.text ++ ". Please check disk space and permissions."

def suggestion : StorageError -> Option String
  | file operation _ _ =>
      if operation = "read" then
        some "Check that the file exists and you have permission to read it."
      else some "Check that you have permission to write to this location."
  | document _ (.malformed ..) => some "Fix the XML syntax at the reported position."
  | document _ (.unexpectedRoot _) => some "Make sure you selected a tutorial file."
  | encoding .. => some "Save the file with UTF-8 encoding."
  | writing _ => none
  | unfinished .. => some "Free up disk space or try saving to a different location."

end StorageError

end TutorialKit
