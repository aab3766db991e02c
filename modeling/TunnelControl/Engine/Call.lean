/-
  TunnelControl.Engine.Call
  ─────────────────────────
  **CALLS INTO THE ENGINE.**

  Requests reach the engine as calls that are queued and then delivered one
  by one; nobody waits for them.  Their effect shows later, as callbacks.

    • `EngineCall`, `EngineCall.name`,
    • `EngineCall.debugText` — never shows a connect body, which holds credentials,
    • `Engine`, `EngineCall.deliver` — each call goes to the entry of its name.
-/
import TunnelControl.Engine.Error

namespace TunnelControl

/-- A call that is queued for the engine. -/
inductive EngineCall where
  /-- Start a session with a config body. -/
  | connect (body : String)
  | disconnect
  | switchOrg (org : String)
  | updateSettings (body : String)
deriving DecidableEq

namespace EngineCall

/-- The name of the engine's entry. -/
def name : EngineCall → String
  | connect _ => "connect"
  | disconnect => "disconnect"
  | switchOrg _ => "switchOrg"
  | updateSettings _ => "updateSettings"

/-- The debug text, without the body of a connect call. -/
def debugText : EngineCall → String
  | connect _ => "Connect \x7b config_json: <redacted> \x7d"
  | disconnect => "Disconnect"
  | switchOrg org => Text.debugRecord "SwitchOrg" [("org_id", Text.quoted org)] false
  | updateSettings body =>
      Text.debugRecord "UpdateSettings" [("settings_json", Text.quoted body)] false

/-- The call in full, as an engine that keeps a record writes it down. -/
def transcript : EngineCall → String
  | connect body => "connect " ++ body
  | disconnect => "disconnect"
  | switchOrg org => "switchOrg " ++ org
  | updateSettings body => "updateSettings " ++ body

end EngineCall

/-- The entries of an engine, as functions on its state. -/
structure Engine (σ : Type) where
  connect : String → σ → Except EngineError Unit × σ
  disconnect : σ → Except EngineError Unit × σ
  switchOrg : String → σ → Except EngineError Unit × σ
  updateSettings : String → σ → Except EngineError Unit × σ

/-- Hands a call to the entry of its name. -/
def EngineCall.deliver {σ : Type} (engine : Engine σ) : EngineCall → σ → Except EngineError Unit × σ
  | connect body => engine.connect body
  | disconnect => engine.disconnect
  | switchOrg org => engine.switchOrg org
  | updateSettings body => engine.updateSettings body

/-- An engine that writes every call down and then answers as told. -/
def Engine.recording (answer : Except EngineError Unit) : Engine (List String) where
  connect := fun body log => (answer, log ++ ["connect " ++ body])
  disconnect := fun log => (answer, log ++ ["disconnect"])
  switchOrg := fun org log => (answer, log ++ ["switchOrg " ++ org])
  updateSettings := fun body log => (answer, log ++ ["updateSettings " ++ body])

end TunnelControl
