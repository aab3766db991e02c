/-
  TunnelControl.Session.Delivery
  ──────────────────────────────
  **A SESSION AND THE ENGINE IT CALLS.**

  Calls wait in the session and are handed to the engine one at a time.  The
  engine answers, fails, or does not come to an end; which of them is up to
  the engine and what it has seen before.  The session takes note of the call
  and of nothing else.

    • `Engine.outcome`             — how a call ends,
    • `Delivery`                   — a session and the state of its engine,
    • `Delivery.act`, `Delivery.run` — the steps of the two together.
-/
import TunnelControl.Session.Coordinator

namespace TunnelControl

/-- How a call ends.  `breaks` tells the calls that do not come to an end. -/
def Engine.outcome {σ : Type} (engine : Engine σ) (breaks : EngineCall → σ → Bool)
    (e : EngineCall) (s : σ) : Coordinator.CallOutcome :=
  if breaks e s then .panicked
  else match (e.deliver engine s).1 with
    | .ok () => .delivered
    | .error _ => .failed

/-- A session and the state of the engine that its calls reach. -/
structure Delivery (σ : Type) where
  session : Coordinator
  engine : σ

namespace Delivery

variable {σ : Type}

/-- A session that begins, with an engine in some state. -/
def start (interval : Nat) (s : σ) : Delivery σ := ⟨Coordinator.start interval, s⟩

/-- The next call is handed to the engine; with that it is done, however it
ends. -/
def callNext (engine : Engine σ) (breaks : EngineCall → σ → Bool) (d : Delivery σ) : Delivery σ :=
  match d.session.outbox with
  | [] => d
  | e :: _ =>
      { session := d.session.callNext (engine.outcome breaks e d.engine)
        engine := (e.deliver engine d.engine).2 }

/-- Takes one step.  How a call ends is not chosen but up to the engine. -/
def act (engine : Engine σ) (breaks : EngineCall → σ → Bool) (a : Coordinator.Action)
    (d : Delivery σ) : Delivery σ :=
  match a with
  | .callNext _ => d.callNext engine breaks
  | a => { d with session := d.session.act a }

/-- Takes steps one after the other. -/
def run (engine : Engine σ) (breaks : EngineCall → σ → Bool) (actions : List Coordinator.Action)
    (d : Delivery σ) : Delivery σ :=
  actions.foldl (fun d a => d.act engine breaks a) d

end Delivery

end TunnelControl
