/-
  TunnelControl.Engine.Callback
  ─────────────────────────────
  **CALLBACKS FROM THE ENGINE AND THE STATE THEY LEAD TO.**

  The connection state follows the callbacks of the engine and nothing else.
  A peer update carries data and is no transition; every other callback leads
  to one state, whatever the state was.

    • `Callback`, `Callback.name`,
    • `ConnectionState`, `ConnectionState.after`.
-/
namespace TunnelControl

/-- A callback from the engine. -/
inductive Callback where
  /-- The client is known to the control server. -/
  | registered
  | connected
  | terminated
  | authError (code : Int32) (message : String)
  /-- A new peer list, not yet decoded. -/
  | peerUpdate (body : String)
deriving DecidableEq

/-- The name of a callback. -/
def Callback.name : Callback → String
  | registered => "registered"
  | connected => "connected"
  | terminated => "terminated"
  | authError .. => "authError"
  | peerUpdate _ => "peerUpdate"

/-- The state of the connection. -/
inductive ConnectionState where
  | disconnected
  | registered
  | connected
  | terminated
  | authError (code : Int32) (message : String)
deriving DecidableEq

namespace ConnectionState

/-- The state that a callback leads to; a peer update leads nowhere. -/
def after (_ : ConnectionState) : Callback → Option ConnectionState
  | .registered => some registered
  | .connected => some connected
  | .terminated => some terminated
  | .authError code message => some (authError code message)
  | .peerUpdate _ => none

/-- The tunnel is up. -/
def isConnected : ConnectionState → Bool
  | connected => true
  | _ => false

/-- The name of a state, without what it carries. -/
def kind : ConnectionState → String
  | disconnected => "Disconnected"
  | registered => "Registered"
  | connected => "Connected"
  | terminated => "Terminated"
  | authError .. => "AuthError"

/-- The label of a state. -/
def displayName : ConnectionState → String
  | authError _ message => "Auth Error: " ++ message
  | s => s.kind

end ConnectionState

end TunnelControl
