/-
  TunnelControl.Session.Rehearsal
  ───────────────────────────────
  **A SESSION AGAINST A SCRIPTED ENGINE.**

  A rehearsal runs a coordinator against an engine that answers from a
  script, on a clock that moves only when it is told to.  After each step all
  work that is due is done: messages are handled, calls delivered, pulls made.
  It only picks which of the coordinator's own steps comes next.

    • `Script`, `Rehearsal`,
    • `Rehearsal.settle`  — does all work that is due,
    • `Rehearsal.request` — makes a request and waits for its answer,
    • `Rehearsal.advance` — lets time pass, pulling whenever a pull is due.
-/
import TunnelControl.Session.Coordinator

namespace TunnelControl

/-- How the engine answers. -/
structure Script where
  /-- The answer to the question for the status. -/
  status : PullAnswer
  /-- The answer to the question for the peers. -/
  peers : PullAnswer
  calls : Coordinator.CallOutcome
  /-- Callbacks that come from inside the next question for the status, once. -/
  duringPull : List Callback

/-- A coordinator, its engine and its host. -/
structure Rehearsal where
  session : Coordinator
  script : Script
  host : Host
  /-- How often the engine was asked for its status. -/
  statusPulls : Nat
  /-- How often the engine was asked for its peers. -/
  peerPulls : Nat

namespace Rehearsal

/-- Handles the whole queue; the last answer to a command is returned. -/
def drain (r : Rehearsal) : Option (Except RequestError Accepted) × Rehearsal :=
  let handled := r.session.inbox.foldl
    (fun acc _ =>
      let (reply, c) := acc.2.handleNext
      (reply.or acc.1, c)) (none, r.session)
  (handled.1, { r with session := handled.2 })

/-- Delivers all calls that wait. -/
def deliverAll (r : Rehearsal) : Rehearsal :=
  { r with session := r.session.outbox.foldl (fun c _ => c.callNext r.script.calls) r.session }

/-- The engine answers a pull that has begun.  Unless the first question did
not come to an end, the second one follows. -/
def answerPull (i : Nat) (r : Rehearsal) : Rehearsal :=
  let session := r.script.duringPull.foldl (fun c cb => c.send (.callback cb)) r.session
  let snapshot := Snapshot.ofAnswers r.script.status r.script.peers
  { r with
    session := (session.endPull i snapshot).report i
    script := { r.script with duringPull := [] }
    statusPulls := r.statusPulls + 1
    peerPulls := if r.script.status = .panicked then r.peerPulls else r.peerPulls + 1 }

/-- Begins and answers one pull that is due; nothing if there is none. -/
def pullNext? (r : Rehearsal) : Option Rehearsal :=
  match r.session.pulls.findIdx? Pull.isWaiting with
  | some i =>
      let session := r.session.beginRefresh i
      if session.pulls.length = r.session.pulls.length then
        some ({ r with session := session }.answerPull i)
      else some { r with session := session }
  | none =>
      match r.session.loops.findIdx? (fun l => Coordinator.isDue l r.session.clock) with
      | some i =>
          let session := r.session.beginTimed i
          some ({ r with session := session }.answerPull (session.pulls.length - 1))
      | none => none

/-- Rounds of work: the queue, the calls, one pull. -/
def settleWithin : Nat → Rehearsal → Rehearsal
  | 0, r => r
  | n + 1, r =>
      let r := r.drain.2.deliverAll
      match r.pullNext? with
      | some r => settleWithin n r
      | none => r

/-- A bound on the rounds: every message, loop and waiting pull can give rise
to one pull. -/
def rounds (r : Rehearsal) : Nat :=
  2 * (r.session.inbox.length + r.session.loops.length + r.session.pulls.length
    + r.script.duringPull.length) + 2

/-- Does all work that is due. -/
def settle (r : Rehearsal) : Rehearsal := settleWithin r.rounds r

/-- The next time at which a loop pulls, up to a limit. -/
def nextTime? (limit : Nat) (r : Rehearsal) : Option Nat :=
  let times := r.session.loops.filterMap fun l =>
    if l.cancelled then none else l.due.filter (· ≤ limit)
  times.min?

/-- Lets time pass up to a limit, from one pull to the next. -/
def advanceWithin (limit : Nat) : Nat → Rehearsal → Rehearsal
  | 0, r => r
  | n + 1, r =>
      match r.nextTime? limit with
      | some t =>
          let session := r.session.advance (t - r.session.clock)
          advanceWithin limit n { r with session := session }.settle
      | none => { r with session := r.session.advance (limit - r.session.clock) }

/-- Lets time pass. -/
def advance (ms : Nat) (r : Rehearsal) : Rehearsal :=
  advanceWithin (r.session.clock + ms) (ms + 2) r

/-- The engine calls back. -/
def callbacks (cbs : List Callback) (r : Rehearsal) : Rehearsal :=
  { r with session := cbs.foldl (fun c cb => c.send (.callback cb)) r.session }

/-- Makes a request and waits for its answer. -/
def request (q : Request) (r : Rehearsal) : Except RequestError Accepted × Rehearsal :=
  match r.session.submit q with
  | (.error e, session) => (.error e, { r with session := session })
  | (.ok (), session) =>
      let (reply, r) := { r with session := session }.drain
      (reply.getD (.error .shutDown), r)

/-- The end of a step: all work is done, and the clock moves on by one
millisecond. -/
def finishStep (r : Rehearsal) : Rehearsal := (r.settle.advance 1).settle

end Rehearsal

end TunnelControl
