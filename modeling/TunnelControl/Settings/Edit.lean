/-
  TunnelControl.Settings.Edit
  ───────────────────────────
  **CHANGING ONE SETTING.**

  A setting is changed either by a value of its own type or by a text that a
  person typed.  A typed text loses its outer blanks, and one that does not
  fit is refused with the setting's name.

    • `Settings.setText`, `Settings.setFlag` — values taken as they are,
    • `Settings.enter` — a typed text.
-/
import TunnelControl.Settings.Basic
import TunnelControl.Text.Parts

namespace TunnelControl.Settings

/-- Assigns a text as it is; settings of other types stay as they are. -/
def setText (setting : Setting) (value : String) (s : Settings) : Settings :=
  match setting with
  | .endpoint => { s with endpoint := value }
  | .id => { s with id := value }
  | .secret => { s with secret := value }
  | .userToken => { s with userToken := value }
  | .orgId => { s with orgId := value }
  | .dns => { s with dns := value }
  | .pingInterval => { s with pingInterval := value }
  | .pingTimeout => { s with pingTimeout := value }
  | .logLevel => { s with logLevel := value }
  | _ => s

/-- Assigns a truth value; settings of other types stay as they are. -/
def setFlag (setting : Setting) (value : Bool) (s : Settings) : Settings :=
  match setting with
  | .holepunch => { s with holepunch := value }
  | .tunnelDns => { s with tunnelDns := value }
  | .overrideDns => { s with overrideDns := value }
  | _ => s

/-- Assigns a time and checks both times. -/
def enterTime (setting : Setting) (value : String) (s : Settings) : Except Rejected Settings :=
  let s := setText setting value s
  match s.toConfig with
  | .ok _ => .ok s
  | .error r => .error r

/-- Assigns a typed truth value. -/
def enterFlag (setting : Setting) (value : String) (s : Settings) : Except Rejected Settings :=
  match Text.boolean? value with
  | some b => .ok (setFlag setting b s)
  | none => .error (.because setting (.noBoolean value))

/-- Changes a setting to a text that was typed. -/
def enter (setting : Setting) (raw : String) (s : Settings) : Except Rejected Settings :=
  let value := Text.trim raw
  match setting with
  | .mtu =>
      match Text.naturalUpTo? (UInt32.size - 1) value with
      | some n => setMtu (UInt32.ofNat n) s
      | none => .error (.because .mtu (.noNumber value))
  | .upstreamDns => .ok (setUpstreamDns (Text.splitString ',' value) s)
  | .holepunch => enterFlag .holepunch value s
  | .tunnelDns => enterFlag .tunnelDns value s
  | .overrideDns => enterFlag .overrideDns value s
  | .pingInterval => enterTime .pingInterval value s
  | .pingTimeout => enterTime .pingTimeout value s
  | .logLevel =>
      match LogLevel.ofName? value with
      | some l => .ok (setLogLevel l s)
      | none => .error (.because .logLevel (.noLogLevel value))
  | setting => .ok (setText setting value s)

end TunnelControl.Settings
