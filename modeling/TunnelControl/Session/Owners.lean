/-
  TunnelControl.Session.Owners
  ────────────────────────────
  **WHO KEEPS A SESSION.**

  The handles of callers share one session, and the task that handles its
  messages holds it too, until it ends.  A queue is open as long as anybody can
  put something into it: the session holds a way into both queues, the engine
  and the pulls under way into that of the messages.  A task that finds its
  queue closed ends as well.  A view ends when nobody is left who could write
  it.

    • `Owned`                            — a session with those who hold it,
    • `isHeld`, `hasEnded`               — is the session there, and is a view?
    • `messagesAreClosed`, `callsAreClosed` — is a queue closed for good?
    • `Owned.Step`, `Owned.may`, `Owned.step` — one step,
    • `Owned.run`, `Owned.performed`     — what a run does to the session.
-/
import TunnelControl.Session.Closing
import TunnelControl.Session.Watching

namespace TunnelControl

/-- The session with another number of handles. -/
def Coordinator.withHandles (n : Nat) (c : Coordinator) : Coordinator := { c with handles := n }

/-- The session and its tasks with another number of handles. -/
def Closing.withHandles (n : Nat) (k : Closing) : Closing :=
  { k with session := k.session.withHandles n }

/-- A session, its tasks, and those who hold parts of it.  The session counts
its own handles. -/
structure Owned where
  closing : Closing
  /-- The ways of the engine into the queue of messages. -/
  callbacks : Nat
  /-- Those who hold the views of peers and status, and nothing else. -/
  keepers : Nat

namespace Owned

/-! ## §1. Who holds what. -/

/-- A session that begins, with one handle on it. -/
def start (interval : Nat) : Owned := ⟨.start interval, 0, 0⟩

/-- The session itself. -/
def session (k : Owned) : Coordinator := k.closing.session

/-- The handles of callers. -/
def handles (k : Owned) : Nat := k.session.handles

/-- A caller has a handle, or the task that handles messages goes on. -/
def isHeld (k : Owned) : Bool := 0 < k.handles || !k.session.stopped

/-- Nobody can write a view any more. -/
def hasEnded (v : View) (k : Owned) : Bool :=
  match v with
  | .state => !k.isHeld
  | _ => !k.isHeld && k.keepers == 0

/-- No message waits, and nobody can send one: not the session, not the engine,
no loop that is to pull, and no pull that is under way. -/
def messagesAreClosed (k : Owned) : Bool :=
  k.session.inbox.isEmpty && !k.isHeld && k.callbacks == 0 && k.session.pulls.isEmpty
    && k.session.loops.all fun l => l.cancelled || l.due.isNone

/-- No call waits, and nobody can queue one: the session alone could. -/
def callsAreClosed (k : Owned) : Bool := k.session.outbox.isEmpty && !k.isHeld

/-! ## §2. Steps. -/

/-- One step of a run. -/
inductive Step where
  /-- A step of the session and its tasks. -/
  | session (s : Closing.Step)
  /-- A caller takes another handle. -/
  | cloneHandle
  /-- The engine gets a way into the queue. -/
  | giveCallbacks
  | dropCallbacks
  /-- Somebody gets hold of the views of peers and status. -/
  | keepViews
  | dropViews
  /-- The task that handles messages sees that its queue is closed. -/
  | messagesEnd
  /-- The worker sees that its queue is closed. -/
  | callsEnd

/-- Is there anybody who can take this step?  Requests take a handle, and
callbacks a way into the queue. -/
def may (s : Closing.Step) (k : Owned) : Bool :=
  match s with
  | .session (.request _) => 0 < k.handles
  | .session .shutdown => 0 < k.handles
  | .session .dropHandle => 0 < k.handles
  | .session (.callback _) => 0 < k.callbacks
  | _ => true

/-- Takes one step.  What is held can be taken from one who holds it. -/
def step (s : Step) (k : Owned) : Owned :=
  match s with
  | .session s => if k.may s then { k with closing := k.closing.step s } else k
  | .cloneHandle =>
      if 0 < k.handles then { k with closing := k.closing.withHandles (k.handles + 1) } else k
  | .giveCallbacks =>
      if 0 < k.handles ∨ 0 < k.callbacks then { k with callbacks := k.callbacks + 1 } else k
  | .dropCallbacks => { k with callbacks := k.callbacks - 1 }
  | .keepViews =>
      if 0 < k.handles ∨ 0 < k.keepers then { k with keepers := k.keepers + 1 } else k
  | .dropViews => { k with keepers := k.keepers - 1 }
  | .messagesEnd =>
      if k.session.stopped = false ∧ k.messagesAreClosed then
        { k with closing := { k.closing with session := k.session.endHandling }.settle }
      else k
  | .callsEnd =>
      if k.closing.worker = .idle ∧ k.callsAreClosed then
        let ended := { k.closing with session := k.session.endWorker, worker := .ended }
        { k with closing := ended.settle }
      else k

/-- Takes steps one after the other. -/
def run (steps : List Step) (k : Owned) : Owned := steps.foldl (fun k s => k.step s) k

/-- What a step does to the session and its tasks; giving up a handle is
nothing of that kind. -/
def performed? (s : Step) (k : Owned) : Option Closing.Step :=
  match s with
  | .session (.session .dropHandle) => none
  | .session s => if k.may s then some s else none
  | .callsEnd =>
      if k.closing.worker = .idle ∧ k.callsAreClosed then some (.session .endWorker) else none
  | _ => none

/-- What a run does to the session and its tasks. -/
def performed : List Step → Owned → List Closing.Step
  | [], _ => []
  | s :: steps, k => (k.performed? s).toList ++ performed steps (k.step s)

end Owned

end TunnelControl
