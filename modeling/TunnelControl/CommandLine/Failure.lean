/-
  TunnelControl.CommandLine.Failure
  ─────────────────────────────────
  **HOW A RUN FAILS.**

  A failure has an exit code by which scripts can tell its kind, a code for
  reports, an advice for some kinds, and a message.

    • `Failure`, with `exitCode`, `code?`, `advice?` and `message`,
    • `Failure.ofStorage`, `Failure.ofConfig`.
-/
import TunnelControl.AppConfig.Basic
import TunnelControl.CommandLine.Grammar

namespace TunnelControl.CommandLine

/-- Why a run fails. -/
inductive Failure where
  /-- The command line cannot be read, or asks for help or the version. -/
  | usage (cause : UsageError)
  /-- A value outside the settings is refused. -/
  | validation (field reason : String)
  /-- The settings, or an edit of them, are rejected. -/
  | invalidSettings (cause : Rejected)
  /-- What was asked for on the terminal cannot be read. -/
  | prompt (what reason : String)
  /-- The store of the settings refuses. -/
  | storage (backend message : String)
  /-- The configuration of the application cannot be used. -/
  | config (cause : ConfigError)
  /-- The file system refuses. -/
  | io (cause : IoError)

namespace Failure

/-- The exit code. -/
def exitCode : Failure → Nat
  | usage cause => cause.exitCode
  | validation _ _ => 3
  | invalidSettings _ => 3
  | storage _ _ => 4
  | config _ => 2
  | prompt _ _ => 1
  | io _ => 1

/-- The code in reports. -/
def code? : Failure → Option String
  | usage _ => none
  | validation _ _ => some "olm::validation"
  | invalidSettings _ => some "olm::invalid_settings"
  | prompt _ _ => some "olm::prompt"
  | storage _ _ => some "olm::storage"
  | config _ => some "olm::config"
  | io _ => none

/-- What can be done about it. -/
def advice? : Failure → Option String
  | invalidSettings _ => some "Run `olm settings show` to see the current values."
  | storage _ _ =>
      some ("If no keyring is available on this host, pass --settings-file\n"
        ++ "or set OLM_SETTINGS_FILE to use a plaintext file instead.")
  | config _ => some "Check the config file and OLM_* environment variables."
  | _ => none

/-- The wording. -/
def message : Failure → String
  | usage cause => cause.message
  | validation field reason => "Invalid value for " ++ field ++ ": " ++ reason
  | invalidSettings cause => cause.message
  | prompt what reason => "Could not read " ++ what ++ ": " ++ reason
  | storage backend message => "Settings store '" ++ backend ++ "' failed: " ++ message
  | config cause => "Failed to load configuration: " ++ cause.message
  | io cause => cause.message

/-- A failure of the storage, as the run reports it. -/
def ofStorage : StorageError → Failure
  | .backend name message => storage name message
  | .unreadable cause => storage "settings" ("stored record is unreadable: " ++ cause.message)
  | .io cause => io cause
  | .rejected cause => invalidSettings cause

/-- A failure of the configuration, as the run reports it. -/
def ofConfig : ConfigError → Failure
  | .blankService => validation "keyring_service" "must not be empty"
  | cause => config cause

end Failure

end TunnelControl.CommandLine
