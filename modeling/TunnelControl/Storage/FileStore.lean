/-
  TunnelControl.Storage.FileStore
  ───────────────────────────────
  **SECRETS IN ONE FILE.**

  A file holds all texts as one JSON record.  A change writes the whole
  record to a neighbouring file, which then takes the file's place.

    • `FileStore.load`    — what the file holds; a missing or blank one is empty,
    • `FileStore.saving`  — the steps that replace the file,
    • `SecretStore.file`.
-/
import TunnelControl.Json.Codec
import TunnelControl.Storage.FileTree
import TunnelControl.Storage.SecretStore
import TunnelControl.Text.Blank

namespace TunnelControl

namespace FileStore

/-- How the texts are written. -/
def codec : Json.Codec (Entries String) := Json.Codec.table .text

/-- What a text in a file stands for. -/
def decode (raw : String) : Except StorageError (Entries String) :=
  if Text.isBlankText raw then .ok []
  else match codec.decode raw with
    | .ok entries => .ok entries
    | .error e => .error (.unreadable e)

/-- What the file holds. -/
def contents (path : Path) (t : FileTree) : Except StorageError (Entries String) :=
  match t.readText path with
  | .ok raw => decode raw
  | .error .notFound => .ok []
  | .error e => .error (.io e)

/-- Reads the file. -/
def load (path : Path) : Storing FileTree (Entries String) := .act fun t => (contents path t, t)

/-- The steps that replace the file by one with a given text. -/
def saving (path : Path) (text : String) : List FileStep :=
  path.folders.map .makeFolder ++
    [.openPrivate path.temporary, .append path.temporary text, .sync path.temporary,
      .rename path.temporary path]

/-- Replaces the file. -/
def save (path : Path) (entries : Entries String) : Storing FileTree Unit := .act fun t =>
  match t.run (saving path (codec.encodePretty entries)) with
  | (none, t) => (.ok (), t)
  | (some e, t) => (.error (.io e), t)

/-- Keeps a text under a key. -/
def put (path : Path) (key value : String) : Storing FileTree Unit := do
  let entries ← load path
  save path (entries.insert key value)

/-- Removes a key; the file is only written if the key was there. -/
def remove (path : Path) (key : String) : Storing FileTree Unit := do
  let entries ← load path
  if (entries.get? key).isSome then save path (entries.erase key)

/-- Removes the file. -/
def clear (path : Path) : Storing FileTree Unit := .act fun t =>
  match t.remove path with
  | .ok t => (.ok (), t)
  | .error .notFound => (.ok (), t)
  | .error e => (.error (.io e), t)

end FileStore

/-- The store that keeps texts in a file. -/
def SecretStore.file (path : Path) : SecretStore FileTree where
  name := "file"
  get := fun key => (Entries.get? key) <$> FileStore.load path
  put := FileStore.put path
  remove := FileStore.remove path
  keys := Entries.keys <$> FileStore.load path
  clear := FileStore.clear path

end TunnelControl
