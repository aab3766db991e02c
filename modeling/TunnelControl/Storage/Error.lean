/-
  TunnelControl.Storage.Error
  ───────────────────────────
  **WHAT CAN GO WRONG WITH STORAGE.**

  Storage fails because the file system, the keyring or another backend
  refuses, because what is stored cannot be read, or because an edit of the
  settings is rejected.

    • `IoError.message`, `StorageError.message` — the wording.
-/
import TunnelControl.Connection.Problem
import TunnelControl.Json.ReadError

namespace TunnelControl

/-- Why the file system refuses. -/
inductive IoError where
  | notFound
  /-- A folder is needed where a file is. -/
  | notADirectory
  /-- A file is needed where a folder is. -/
  | isADirectory
  | invalidData
  | alreadyExists
deriving DecidableEq

/-- The wording of a refusal by the file system. -/
def IoError.message : IoError → String
  | notFound => "No such file or directory"
  | notADirectory => "Not a directory"
  | isADirectory => "Is a directory"
  | invalidData => "stream did not contain valid UTF-8"
  | alreadyExists => "File exists"

/-- Why an operation on stored settings fails. -/
inductive StorageError where
  | backend (name : String) (message : String)
  | unreadable (cause : Json.ReadError)
  | io (cause : IoError)
  | rejected (cause : Rejected)
deriving DecidableEq

/-- The wording of a failure. -/
def StorageError.message : StorageError → String
  | backend name message => name ++ " store error: " ++ message
  | unreadable cause => "failed to (de)serialize settings: " ++ cause.message
  | io cause => "IO error: " ++ cause.message
  | rejected cause => cause.message

end TunnelControl
