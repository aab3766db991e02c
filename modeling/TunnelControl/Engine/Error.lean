/-
  TunnelControl.Engine.Error
  ──────────────────────────
  **HOW A CALL ACROSS THE ENGINE BOUNDARY FAILS.**

  Either the call does not reach the engine, or a body that crosses the
  boundary cannot be read or written.

    • `EngineError` — the causes, with `message` and `isPayload`.
-/
import TunnelControl.Json.ReadError

namespace TunnelControl

/-- A failure at the engine boundary. -/
inductive EngineError where
  /-- The call could not be handed over. -/
  | undelivered (call reason : String)
  /-- The engine is not there. -/
  | unavailable
  /-- A body from the engine cannot be read. -/
  | undecodable (what : String) (cause : Json.ReadError) (body : String)
  /-- A body for the engine cannot be written. -/
  | unencodable (what reason : String)

namespace EngineError

/-- The wording of a failure. -/
def message : EngineError → String
  | undelivered call reason => "engine call `" ++ call ++ "` could not be delivered: " ++ reason
  | unavailable => "engine is not running"
  | undecodable what cause _ => "failed to decode " ++ what ++ ": " ++ cause.message
  | unencodable what reason => "failed to encode " ++ what ++ ": " ++ reason

/-- Is a body at fault rather than the way to the engine? -/
def isPayload : EngineError → Bool
  | undecodable .. => true
  | unencodable .. => true
  | _ => false

end EngineError

end TunnelControl
