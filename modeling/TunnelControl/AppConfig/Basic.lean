/-
  TunnelControl.AppConfig.Basic
  ─────────────────────────────
  **THE CONFIGURATION OF THE APPLICATION.**

  What is not secret and not a setting: defaults, overlaid by a file,
  overlaid by environment variables.

    • `AppConfig`, `AppConfig.json`, `AppConfig.syncInterval`, `AppConfig.store`,
    • `ConfigError`, `ConfigError.message`,
    • `AppConfig.ofTable`  — the configuration of values by name,
    • `AppConfig.findFile` — the text of the file, if there is one,
    • `AppConfig.load`.
-/
import TunnelControl.AppConfig.Toml.Document
import TunnelControl.Json.Record
import TunnelControl.Storage.Machine

namespace TunnelControl

/-- What is logged when nothing else is asked for. -/
structure LogDefaults where
  /-- Which messages are logged. -/
  filter : String := "warn"
  /-- Messages are JSON lines. -/
  json : Bool := false
deriving DecidableEq

/-- The configuration of the application. -/
structure AppConfig where
  /-- The time between pulls of the status, in seconds; zero for none. -/
  syncIntervalSeconds : UInt64 := 5
  /-- The keyring service of the settings. -/
  keyringService : String := "olm"
  /-- The file of the settings, in place of the keyring. -/
  settingsFile : Option String := none
  /-- What is logged. -/
  log : LogDefaults := {}
deriving DecidableEq

/-- Why the configuration cannot be used. -/
inductive ConfigError where
  /-- The file is no TOML document, or no text. -/
  | malformed
  /-- A value of another kind than expected, with the names that lead to it. -/
  | invalidType (found : ConfigValue) (expected : String) (path : List String)
  /-- A value of the right kind but out of range. -/
  | invalidValue (found : ConfigValue) (expected : String) (path : List String)
  /-- The keyring service is blank. -/
  | blankService

/-- The wording of a complaint. -/
def ConfigError.message : ConfigError → String
  | malformed => "the file is not valid"
  | invalidType found expected _ =>
      "invalid type: found " ++ found.describe ++ ", expected " ++ expected
  | invalidValue found expected _ =>
      "invalid value " ++ found.describe ++ ", expected " ++ expected
  | blankService => "invalid keyring_service: must not be empty"

/-- The names that lead to the offending value. -/
def ConfigError.path : ConfigError → List String
  | invalidType _ _ path => path
  | invalidValue _ _ path => path
  | _ => []

namespace AppConfig

/-! ## §1. As JSON. -/

/-- The JSON of the configuration. -/
def toValue (c : AppConfig) : Json.Value :=
  .record
    [("sync_interval_secs", .integer c.syncIntervalSeconds.toNat),
      ("keyring_service", .text c.keyringService),
      ("settings_file", match c.settingsFile with
        | some path => .text path
        | none => .null),
      ("log", .record [("filter", .text c.log.filter), ("json", .boolean c.log.json)])]

/-- The JSON text of the configuration. -/
def json (c : AppConfig) : String := c.toValue.compact

/-- The time between pulls of the status. -/
def syncInterval (c : AppConfig) : Duration := Duration.ofParts c.syncIntervalSeconds.toNat 0

/-- The store of the settings. -/
def store (c : AppConfig) : SecretStore Machine :=
  SecretStore.chosen c.settingsFile c.keyringService

/-! ## §2. From values. -/

/-- A text. -/
def readText (expected : String) (path : List String) : ConfigValue → Except ConfigError String
  | .text s => .ok s
  | v => .error (.invalidType v expected path)

/-- A truth value. -/
def readBoolean (path : List String) : ConfigValue → Except ConfigError Bool
  | .boolean b => .ok b
  | v => .error (.invalidType v "a boolean" path)

/-- A whole number of 64 bits without a sign. -/
def readCount (path : List String) : ConfigValue → Except ConfigError UInt64
  | .unsigned n => .ok (UInt64.ofNat n)
  | .signed i =>
      if 0 ≤ i then .ok (UInt64.ofNat i.toNat)
      else .error (.invalidValue (.signed i) "u64" path)
  | v => .error (.invalidType v "u64" path)

/-- A field that may be missing. -/
def field {α : Type} (read : List String → ConfigValue → Except ConfigError α) (path : List String)
    (name : String) (fallback : α) (members : Entries ConfigValue) : Except ConfigError α :=
  match members.get? name with
  | some v => read (path ++ [name]) v
  | none => .ok fallback

/-- What is logged: by name, or in the order of the fields. -/
def readLog (path : List String) : ConfigValue → Except ConfigError LogDefaults
  | .table members => do
      let filter ← field (readText "a string") path "filter" ({} : LogDefaults).filter members
      let json ← field readBoolean path "json" ({} : LogDefaults).json members
      return ⟨filter, json⟩
  | .sequence items => do
      let filter ← match items[0]? with
        | some v => readText "a string" (path ++ ["0"]) v
        | none => pure ({} : LogDefaults).filter
      let json ← match items[1]? with
        | some v => readBoolean (path ++ ["1"]) v
        | none => pure ({} : LogDefaults).json
      return ⟨filter, json⟩
  | v => .error (.invalidType v "struct LogDefaults" path)

/-- The configuration of values by name.  Names that mean nothing do not
count; the fields are checked in the order of their names. -/
def ofTable (members : Entries ConfigValue) : Except ConfigError AppConfig := do
  let d : AppConfig := {}
  let service ← field (readText "a string") [] "keyring_service" d.keyringService members
  let log ← field readLog [] "log" d.log members
  let file ← field (fun path v => some <$> readText "path string" path v) [] "settings_file"
    d.settingsFile members
  let seconds ← field readCount [] "sync_interval_secs" d.syncIntervalSeconds members
  return ⟨seconds, service, file, log⟩

/-! ## §3. Loading. -/

/-- The file of a path, seen from a folder or from one of those around it. -/
def findFrom (t : FileTree) (p : Path) : List Location → Option Content
  | [] => none
  | here :: rest =>
      match ({ t with here := here }).find p with
      | .ok (_, .file content _) => some content
      | _ => findFrom t p rest

/-- A location and those around it, innermost first. -/
def around : Location → List Location
  | [] => [[]]
  | name :: rest => (around rest).map (name :: ·) ++ [[]]

/-- The file of a path.  A relative one is also looked for in the folders
around the working folder; a folder is no file. -/
def findFile (t : FileTree) (p : Path) : Option Content :=
  findFrom t p (if p.absolute then [t.here] else around t.here)

/-- The members of the file of a path. -/
def fileMembers (t : FileTree) (p : Path) : Except ConfigError (Entries ConfigValue) :=
  match findFile t p with
  | none => .ok []
  | some .binary => .error .malformed
  | some (.text s) =>
      match Toml.parse? s with
      | some members => .ok members
      | none => .error .malformed

/-- The place of the file if none is named, in the folder of all configurations. -/
def defaultPath (folder : Location) : Path := ⟨true, folder ++ ["olm", "config.toml"], false⟩

/-- The members of a table. -/
def membersOf : ConfigValue → Entries ConfigValue
  | .table members => members
  | _ => []

/-- The defaults as values, over which a file is laid. -/
def defaults : Entries ConfigValue :=
  let d : AppConfig := {}
  Entries.ofList
    [("keyring_service", .text d.keyringService),
      ("log", .table (Entries.ofList [("filter", .text d.log.filter), ("json", .boolean d.log.json)])),
      ("sync_interval_secs", .unsigned d.syncIntervalSeconds.toNat)]

/-- Loads the configuration from the file of a path and from variables. -/
def load (t : FileTree) (p : Path) (environment : List (String × String)) :
    Except ConfigError AppConfig := do
  let file ← fileMembers t p
  let merged := ConfigValue.overlay (ConfigValue.overlay defaults file)
    (membersOf (Variable.table environment))
  let c ← ofTable merged
  if Text.isBlankText c.keyringService then .error .blankService else return c

end AppConfig

end TunnelControl
