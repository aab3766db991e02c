/-
  TunnelControl.CommandLine.Run
  ─────────────────────────────
  **RUNNING A COMMAND.**

  A run reads the command line, then the configuration of the application,
  then opens the store of the settings and does what it is asked.  It leaves
  the storage of the computer changed even if it fails.

    • `masked`      — a JSON record whose credentials are hidden,
    • `renderedConfig` — the JSON that the engine would receive,
    • `perform`     — a command on a store,
    • `run`         — a whole run.
-/
import TunnelControl.CommandLine.Completion
import TunnelControl.CommandLine.Failure
import TunnelControl.Connection.Validate
import TunnelControl.Settings.Edit
import TunnelControl.Storage.SettingsStore

namespace TunnelControl.CommandLine

/-! ## §1. Output. -/

/-- What a run prints. -/
structure Output where
  stdout : String := ""
  stderr : String := ""
deriving DecidableEq

/-- What stands for a credential. -/
def maskedValue : Json.Value → Json.Value
  | .text s => .text (Settings.masked s)
  | v => v

/-- A record with its credentials hidden; empty ones stay empty. -/
def masked : Json.Value → Json.Value
  | .record members =>
      .record (members.map fun m =>
        if (credentials.map Setting.wireName).contains m.1 then (m.1, maskedValue m.2) else m)
  | v => v

/-- A value as it is printed, with members in order of their names. -/
def printed (reveal : Bool) (v : Json.Value) : Output :=
  let v := v.sorted
  { stdout := (if reveal then v else masked v).pretty ++ "\n" }

/-! ## §2. Commands on a store. -/

/-- The JSON that the engine would receive. -/
def renderedConfig (s : Settings) : Except Rejected Json.Value := do
  let config ← s.toConfig
  let validated ← config.validate
  return Wire.ConnectBody.codec.toValue validated.body

/-- The answer to a request on the terminal, or why there is none. -/
abbrev Terminal := String → Except String String

/-- Asks for a credential. -/
def askFor (terminal : Terminal) (setting : Setting) : Except Failure String :=
  let what := setting.wireName
  match terminal what with
  | .error reason => .error (.prompt what reason)
  | .ok value =>
      if Text.isBlankText value then .error (.validation what "must not be empty") else .ok value

section

variable {σ : Type}

/-- Changes the settings and reports it. -/
def updated (backend : SecretStore σ) (setting : Setting)
    (change : Settings → Except Rejected Settings) (s : SettingsStore σ) :
    Except Failure Output × SettingsStore σ :=
  match (SettingsStore.update backend change).on s with
  | (.ok _, s) => (.ok { stderr := setting.wireName ++ " updated\n" }, s)
  | (.error e, s) => (.error (.ofStorage e), s)

/-- Does what a command says. -/
def perform (terminal : Terminal) (backend : SecretStore σ) (command : SettingsCommand)
    (s : SettingsStore σ) : Except Failure Output × SettingsStore σ :=
  match command with
  | .show reveal =>
      let s := s.reload backend
      (.ok (printed reveal (Settings.codec.toValue s.current)), s)
  | .set setting value => updated backend setting (Settings.enter setting value) s
  | .setSecret setting (some value) =>
      updated backend setting (fun s => .ok (s.setText setting value)) s
  | .setSecret setting none =>
      match askFor terminal setting with
      | .ok value => updated backend setting (fun s => .ok (s.setText setting value)) s
      | .error e => (.error e, s)
  | .clear =>
      match (SettingsStore.clear backend).on s with
      | (.ok _, s) => (.ok { stderr := "settings cleared (" ++ backend.name ++ ")\n" }, s)
      | (.error e, s) => (.error (.ofStorage e), s)
  | .renderConfig reveal =>
      match renderedConfig s.current with
      | .ok v => (.ok (printed reveal v), s)
      | .error r => (.error (.invalidSettings r), s)

end

/-! ## §3. Runs. -/

/-- The surroundings of a run. -/
structure Surroundings where
  environment : Environment
  configFolder : Location
  terminal : Terminal

/-- The file with the configuration of the application. -/
def Invocation.configPath (around : Surroundings) (i : Invocation) : Path :=
  match i.config with
  | some text => Path.ofText text
  | none => AppConfig.defaultPath around.configFolder

/-- Reads the command line and the configuration of the application. -/
def prepare (around : Surroundings) (words : List String) (files : FileTree) :
    Except Failure (Invocation × AppConfig) := do
  let i ← (Invocation.read around.environment words).mapError .usage
  let config ← (AppConfig.load files (i.configPath around) around.environment).mapError .ofConfig
  return (i, config)

/-- The file of the settings, if they are not in the keyring. -/
def Invocation.storeFile (config : AppConfig) (i : Invocation) : Option String :=
  i.settingsFile.or config.settingsFile

/-- One run of the program. -/
def run (around : Surroundings) (words : List String) (m : Machine) :
    Except Failure Output × Machine :=
  match prepare around words m.files with
  | .error e => (.error e, m)
  | .ok (i, config) =>
      match i.command with
      | .completions shell => (.ok { stdout := completionScript shell program }, m)
      | .onSettings command =>
          let backend := SecretStore.chosen (i.storeFile config) config.keyringService
          let (result, s) := perform around.terminal backend command (.load backend m)
          (result, s.storage)

end TunnelControl.CommandLine
