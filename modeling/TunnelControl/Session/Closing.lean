/-
  TunnelControl.Session.Closing
  ─────────────────────────────
  **HOW A SESSION COMES TO REST.**

  Two tasks serve a session: one handles its messages, and a worker hands its
  calls to the engine, each to its end before the next.  Shutdown asks both to
  end; the first who calls it waits until they have, and whoever calls it again
  finds no task to wait for, and is back at once.  Loops that pull hear of it
  at once; a task looks up when it is done with what it is at, and drops what
  still waits.  In between everything goes on, in any order.

    • `Worker`, `Closing`            — a session and its two tasks,
    • `Closing.Step`, `Closing.step` — one step, `shutdown` being the request,
    • `Closing.run`                  — any interleaving of them,
    • `Coordinator.complaint`        — what a caller is told at once.
-/
import TunnelControl.Session.Coordinator

namespace TunnelControl

namespace Coordinator

/-- What a caller is told at once of a request that is refused.  One that
disconnects is told nothing. -/
def complaint (r : Request) (c : Coordinator) : Option RequestError :=
  match r with
  | .disconnect => none
  | r =>
      match (c.submit r).1 with
      | .error e => some e
      | .ok () => none

/-- Tells every loop to end. -/
def cancelLoops (c : Coordinator) : Coordinator :=
  { c with loops := c.loops.map fun l => { l with cancelled := true } }

/-- The task that handles messages ends: polling stops, and the messages that
wait are dropped. -/
def endHandling (c : Coordinator) : Coordinator :=
  { c.stopPolling with stopped := true, inbox := [] }

end Coordinator

/-- What the worker is at. -/
inductive Worker where
  | idle
  /-- A call is with the engine. -/
  | calling
  | ended
deriving DecidableEq

/-- A session, the tasks that serve it, and how far its shutdown has come. -/
structure Closing where
  session : Coordinator
  worker : Worker
  /-- The tasks were asked to end. -/
  asked : Bool
  /-- Shutdown has returned to the first who called it. -/
  returned : Bool
  /-- Shutdown has returned to somebody else, who called it again. -/
  returnedAgain : Bool
  /-- The task that handles messages may have one at hand, which it finishes even
  when it is asked to end meanwhile. -/
  messageAtHand : Bool
  /-- The worker may have a call at hand, likewise. -/
  callAtHand : Bool

namespace Closing

/-- A session that begins. -/
def start (interval : Nat) : Closing where
  session := Coordinator.start interval
  worker := .idle
  asked := false
  returned := false
  returnedAgain := false
  messageAtHand := true
  callAtHand := true

/-- One step of a run. -/
inductive Step where
  /-- A step of the session.  Here `callNext` begins a call, `shutdown` asks the
  tasks to end, and `endWorker` is the end of the worker that was asked to. -/
  | session (a : Coordinator.Action)
  /-- The call that is with the engine comes to its end. -/
  | callEnds
  /-- The task that handles messages ends. -/
  | handlingEnds
  /-- Shutdown returns to the one who waits. -/
  | returns

/-- The next message is handled.  A task that was asked to end takes none any
more, and finishes the one at hand. -/
def handleNext (k : Closing) : Closing :=
  if k.asked ∧ k.messageAtHand = false then k
  else { k with session := k.session.act .handleNext, messageAtHand := !k.asked }

/-- The worker begins a call unless it is at one, or has ended.  When it was asked
to end it takes none any more, and makes the one at hand. -/
def beginCall (o : Coordinator.CallOutcome) (k : Closing) : Closing :=
  if k.worker ≠ .idle ∨ k.session.outbox = [] ∨ (k.asked ∧ k.callAtHand = false) then k
  else { k with session := k.session.act (.callNext o), worker := .calling, callAtHand := !k.asked }

/-- A step of the session beside its tasks. -/
def act (a : Coordinator.Action) (k : Closing) : Closing :=
  match a with
  | .handleNext => k.handleNext
  | .callNext o => k.beginCall o
  | .endWorker =>
      if k.asked ∧ k.worker = .idle then
        { k with session := k.session.act .endWorker, worker := .ended }
      else k
  | .shutdown => { k with asked := true, returnedAgain := k.returnedAgain || k.asked }
  | a => { k with session := k.session.act a }

/-- A task that was asked ends between two things it does; shutdown returns
when both have ended. -/
def move (s : Step) (k : Closing) : Closing :=
  match s with
  | .session a => k.act a
  | .callEnds => if k.worker = .calling then { k with worker := .idle } else k
  | .handlingEnds =>
      if k.asked ∧ k.session.stopped = false then { k with session := k.session.endHandling } else k
  | .returns =>
      if k.asked ∧ k.session.stopped ∧ k.worker = .ended then { k with returned := true } else k

/-- Loops hear at once that the tasks were asked to end, those that start
afterwards too. -/
def settle (k : Closing) : Closing :=
  { k with session := if k.asked then k.session.cancelLoops else k.session }

/-- Takes one step. -/
def step (s : Step) (k : Closing) : Closing := (k.move s).settle

/-- Takes steps one after the other. -/
def run (steps : List Step) (k : Closing) : Closing := steps.foldl (fun k s => k.step s) k

end Closing

end TunnelControl
