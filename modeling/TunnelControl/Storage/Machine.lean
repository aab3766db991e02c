/-
  TunnelControl.Storage.Machine
  ─────────────────────────────
  **THE STORAGE OF A COMPUTER.**

  A computer has a tree of files and a keyring.  Settings are kept in a file
  if one is named, else in the keyring.

    • `Machine`,
    • `SecretStore.chosen`.
-/
import TunnelControl.Storage.FileStore
import TunnelControl.Storage.Keyring

namespace TunnelControl

/-- The storage of a computer. -/
structure Machine where
  files : FileTree
  keyring : Keyring := {}

/-- The store of a file on a computer. -/
def SecretStore.onFiles (path : Path) : SecretStore Machine :=
  (SecretStore.file path).within (·.files) fun files m => { m with files := files }

/-- The store of a service in the keyring of a computer. -/
def SecretStore.onKeyring (service : String) : SecretStore Machine :=
  (SecretStore.keyring service).within (·.keyring) fun keyring m => { m with keyring := keyring }

/-- The file if one is named, else the keyring. -/
def SecretStore.chosen (file : Option String) (service : String) : SecretStore Machine :=
  match file with
  | some text => onFiles (Path.ofText text)
  | none => onKeyring service

end TunnelControl
