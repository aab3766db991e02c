/-
  TunnelControl.CommandLine.Command
  ─────────────────────────────────
  **THE COMMANDS OF THE PROGRAM.**

  The program shows and edits the stored settings, prints the config that
  the engine would receive, and prints completion scripts for shells.

    • `SettingsCommand`, `Command`, `Invocation`,
    • `Setting.optionName` — how a setting is spelled on the command line,
    • `program`            — the grammar of the command line,
    • `Invocation.read`.
-/
import TunnelControl.CommandLine.Reader
import TunnelControl.Connection.Problem

namespace TunnelControl

/-- The name of a setting on the command line. -/
def Setting.optionName : Setting → String
  | endpoint => "endpoint"
  | id => "id"
  | secret => "secret"
  | userToken => "user-token"
  | orgId => "org-id"
  | mtu => "mtu"
  | dns => "dns"
  | upstreamDns => "upstream-dns"
  | holepunch => "holepunch"
  | tunnelDns => "tunnel-dns"
  | overrideDns => "override-dns"
  | pingInterval => "ping-interval"
  | pingTimeout => "ping-timeout"
  | logLevel => "log-level"

namespace CommandLine

/-! ## §1. Commands. -/

/-- The shells that have a completion script. -/
inductive Shell where
  | bash
  | elvish
  | fish
  | powershell
  | zsh
deriving DecidableEq

/-- The name of a shell. -/
def Shell.name : Shell → String
  | bash => "bash"
  | elvish => "elvish"
  | fish => "fish"
  | powershell => "powershell"
  | zsh => "zsh"

/-- All shells. -/
def Shell.all : List Shell := [.bash, .elvish, .fish, .powershell, .zsh]

/-- What can be done with the stored settings. -/
inductive SettingsCommand where
  | show (reveal : Bool)
  /-- To change a setting to a typed text. -/
  | set (setting : Setting) (value : String)
  /-- To change a credential; without a value it is asked for. -/
  | setSecret (setting : Setting) (value : Option String)
  | clear
  /-- To print the config that the engine would receive. -/
  | renderConfig (reveal : Bool)
deriving DecidableEq

/-- What the program is asked to do. -/
inductive Command where
  | onSettings (command : SettingsCommand)
  /-- To print the completion script of a shell. -/
  | completions (shell : Shell)
deriving DecidableEq

/-- A command with what may be given along with any command. -/
structure Invocation where
  /-- The file with the configuration of the application. -/
  config : Option String
  settingsFile : Option String
  verbosity : Nat
  logJson : Bool
  command : Command
deriving DecidableEq

/-! ## §2. The grammar. -/

/-- The settings that can be typed in clear. -/
def openSettings : List Setting :=
  [.endpoint, .id, .orgId, .mtu, .dns, .upstreamDns, .holepunch, .tunnelDns, .overrideDns,
    .pingInterval, .pingTimeout, .logLevel]

/-- The settings that are credentials. -/
def credentials : List Setting := [.secret, .userToken]

/-- The switches of every command. -/
def commonSwitches : List Switch :=
  [{ name := "config", kind := .value .nonEmpty, envName := some "OLM_CONFIG" },
    { name := "settings-file", kind := .value .nonEmpty, envName := some "OLM_SETTINGS_FILE" },
    { name := "verbose", kind := .count, letter := some 'v' },
    { name := "log-json", kind := .flag },
    { name := "help", kind := .help, letter := some 'h' },
    { name := "version", kind := .version, letter := some 'V' }]

/-- The switch that lets credentials be printed. -/
def revealSwitch : Switch := { name := "reveal", kind := .flag }

/-- The switch with the value of a credential. -/
def valueSwitch : Switch :=
  { name := "value", kind := .value .anything, envName := some "OLM_SECRET_VALUE" }

/-- The words for some settings. -/
def settingWord (settings : List Setting) : Positional :=
  ⟨"field", .oneOf (settings.map Setting.optionName)⟩

/-- The commands on the stored settings. -/
def settingsCommands : List Grammar :=
  [{ names := ["show"], switches := revealSwitch :: commonSwitches },
    { names := ["set"], switches := commonSwitches,
      positionals := [settingWord openSettings, ⟨"value", .anything⟩] },
    { names := ["set-secret"], switches := valueSwitch :: commonSwitches,
      positionals := [settingWord credentials] },
    { names := ["clear"], switches := commonSwitches }]

/-- The grammar of the command line. -/
def program : Grammar :=
  { names := ["olm"]
    switches := commonSwitches
    commands :=
      [{ names := ["settings", "s"], switches := commonSwitches, commands := settingsCommands },
        { names := ["render-config"], switches := revealSwitch :: commonSwitches },
        { names := ["completions"], switches := commonSwitches,
          positionals := [⟨"shell", .oneOf (Shell.all.map Shell.name)⟩] }] }

/-! ## §3. Reading a command. -/

/-- The value of an argument of the innermost level. -/
def valueOf? (name : String) (levels : List ReadLevel) : Option String :=
  (givenLast? name levels).map (·.value)

/-- The setting that was named. -/
def settingOf? (settings : List Setting) (levels : List ReadLevel) : Option Setting :=
  (valueOf? "field" levels).bind fun word => settings.find? fun s => s.optionName = word

/-- The command on the stored settings among levels that were read. -/
def SettingsCommand.ofLevels? (levels : List ReadLevel) : Option SettingsCommand :=
  let reveal := (givenLast? "reveal" levels).isSome
  match levels.map (·.1) with
  | [_, "settings", "show"] => some (.show reveal)
  | [_, "settings", "set"] => do
      return .set (← settingOf? openSettings levels) (← valueOf? "value" levels)
  | [_, "settings", "set-secret"] => do
      return .setSecret (← settingOf? credentials levels) (valueOf? "value" levels)
  | [_, "settings", "clear"] => some .clear
  | [_, "render-config"] => some (.renderConfig reveal)
  | _ => none

/-- The command of levels that were read. -/
def Command.ofLevels? (levels : List ReadLevel) : Option Command :=
  match levels.map (·.1) with
  | [_, "completions"] => do
      let word ← valueOf? "shell" levels
      return .completions (← Shell.all.find? fun s => s.name = word)
  | _ => (SettingsCommand.ofLevels? levels).map .onSettings

/-- Reads a command line without the name of the program. -/
def Invocation.read (environment : Environment) (words : List String) :
    Except UsageError Invocation := do
  let levels ← readAll environment program words
  match Command.ofLevels? levels with
  | none => .error .missingCommand
  | some command =>
      return {
        config := (givenOnAny? "config" levels).map (·.value)
        settingsFile := (givenOnAny? "settings-file" levels).map (·.value)
        verbosity := ((givenOnAny? "verbose" levels).map (·.times)).getD 0
        logJson := (givenOnAny? "log-json" levels).isSome
        command := command }

end CommandLine

end TunnelControl
