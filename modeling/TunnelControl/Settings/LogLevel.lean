/-
  TunnelControl.Settings.LogLevel
  ───────────────────────────────
  **HOW MUCH THE ENGINE LOGS.**

    • `LogLevel.ofName?`   — the strict reader: the four names, in any case,
    • `LogLevel.leniently` — blanks are ignored, and any other text is `INFO`.
-/
import TunnelControl.Text.Blank

namespace TunnelControl

/-- A log level of the engine. -/
inductive LogLevel where
  | debug
  | info
  | warn
  | error
deriving DecidableEq

namespace LogLevel

/-- The name of a level. -/
def name : LogLevel → String
  | debug => "DEBUG"
  | info => "INFO"
  | warn => "WARN"
  | error => "ERROR"

/-- The level of a name; the case of ASCII letters does not matter. -/
def ofName? (raw : String) : Option LogLevel :=
  let upper := raw.map Char.toUpper
  [debug, info, warn, error].find? fun l => l.name == upper

/-- The level of a text that may be anything. -/
def leniently (raw : String) : LogLevel := (ofName? (Text.trim raw)).getD info

end LogLevel

end TunnelControl
