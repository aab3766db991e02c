/-
  TunnelControl.Session.Coordinator
  ─────────────────────────────────
  **THE SESSION OF ONE ENGINE.**

  Callbacks, requests and the results of pulls go through one queue and are
  handled one by one; only there does the connection state change.  Accepted
  requests become calls, which a worker delivers in order.  While the state is
  Connected a loop pulls snapshots; each pull carries the epoch it began in,
  and its result counts only in that epoch.  In a shutdown the worker may end
  before the last message is handled; who would call then is refused.

  Everything is a small step, so that any interleaving is a list of actions.

    • `Request`, `Command`, `RequestError` — what callers ask for and get,
    • `Coordinator`                        — the whole state,
    • `handle`, `handleNext`               — one message of the queue,
    • `beginTimed`, `beginRefresh`, `endPull`, `report`, `callNext`, `advance`,
      `endWorker`, `shutdown`, `dropHandle` — everything else that may happen,
    • `Action`, `act`, `run`               — the steps as data.
-/
import TunnelControl.Connection.Validate
import TunnelControl.Engine.Call
import TunnelControl.Engine.Callback
import TunnelControl.Provision.Provisioner
import TunnelControl.Session.Views
import TunnelControl.Settings.LogLevel

namespace TunnelControl

/-! ## §1. Requests. -/

/-- Why a request is refused. -/
inductive RequestError where
  | rejected (cause : Rejected)
  | sessionActive
  | shutDown
deriving DecidableEq

namespace RequestError

/-- The wording of a refusal. -/
def message : RequestError → String
  | rejected cause => cause.message
  | sessionActive =>
      "A session is already " ++ ConnectionState.connected.kind ++ "; disconnect first"
  | shutDown => "Coordinator has shut down"

/-- Can the caller mend it by another argument? -/
def isValidation : RequestError → Bool
  | rejected _ => true
  | _ => false

end RequestError

/-- A request as it is queued. -/
inductive Command where
  | connect (config : ValidatedConfig)
  | disconnect
  | switchOrg (org : String)
  | updateSettings (body : String)
  | refresh

/-- A request as a caller makes it. -/
inductive Request where
  /-- Start a session with a config that is still to be checked. -/
  | connect (config : ConnectionConfig)
  /-- Start a session with a config that was checked. -/
  | connectWith (config : ValidatedConfig)
  | disconnect
  | switchOrg (org : String)
  | updateSettings (update : Wire.SettingsUpdate)
  | refresh

/-- Checks the argument of a request. -/
def Request.prepare : Request → Except Rejected Command
  | connect config => config.validate.map .connect
  | connectWith config => .ok (.connect config)
  | disconnect => .ok .disconnect
  | switchOrg org =>
      if Text.trim org = "" then .error (.because .orgId .blank)
      else .ok (.switchOrg (Text.trim org))
  | updateSettings update => .ok (.updateSettings (Wire.SettingsUpdate.codec.encode update))
  | refresh => .ok .refresh

/-- The request that sets the log level of the running engine. -/
def Request.setLogLevel (level : LogLevel) : Request := .updateSettings ⟨some level.name⟩

/-- What an accepted request answers. -/
inductive Accepted where
  | queued
  /-- Was a pull started? -/
  | refresh (started : Bool)
deriving DecidableEq

/-! ## §2. The state. -/

/-- A message of the session queue. -/
inductive Message where
  | callback (c : Callback)
  | command (c : Command)
  /-- From a pull, with its number, that began in an epoch. -/
  | pulled (number epoch : Nat) (snapshot : Option Snapshot)

/-- A loop that pulls while connected. -/
structure PollLoop where
  epoch : Nat
  cancelled : Bool
  /-- The time of its next pull, if there is to be one. -/
  due : Option Nat
  /-- A pull of its own is in progress. -/
  busy : Bool
deriving DecidableEq

/-- How far a pull has come. -/
inductive PullStage where
  /-- It is about to ask the engine. -/
  | waiting
  | asked
  /-- It has its result, which is not in the queue yet. -/
  | answered (snapshot : Option Snapshot)

/-- A pull that has not ended. -/
structure Pull where
  /-- The number of pulls that were started before it. -/
  number : Nat
  loop : Nat
  epoch : Nat
  /-- It was begun by the loop rather than by a request. -/
  timed : Bool
  stage : PullStage

/-- It has not asked the engine yet. -/
def Pull.isWaiting (p : Pull) : Bool :=
  match p.stage with
  | .waiting => true
  | _ => false

/-- The state of a session. -/
structure Coordinator where
  /-- The time between two pulls in milliseconds; with zero there is one pull. -/
  syncInterval : Nat
  /-- The time in milliseconds. -/
  clock : Nat
  state : Channel ConnectionState
  views : Views
  /-- The config that the engine was given last. -/
  active : Option ValidatedConfig
  provisioner : Provisioner
  /-- Counts how often polling was stopped.  The count has no bound here; a
  counter of 64 bits would begin again after 2⁶⁴ stops. -/
  epoch : Nat
  /-- The loop that is polling, by its position. -/
  poll : Option Nat
  /-- All loops that were ever started. -/
  loops : List PollLoop
  /-- The pulls that have not ended. -/
  pulls : List Pull
  /-- The number of pulls that were ever started. -/
  started : Nat
  inbox : List Message
  /-- The calls that wait to be delivered. -/
  outbox : List EngineCall
  /-- The calls that were attempted, in order. -/
  attempted : List EngineCall
  /-- The worker that delivers calls has ended, and takes none any more. -/
  workerEnded : Bool
  stopped : Bool
  handles : Nat

namespace Coordinator

/-- A session that begins, with one handle on it. -/
def start (syncInterval : Nat) : Coordinator where
  syncInterval := syncInterval
  clock := 0
  state := .initial .disconnected
  views := .initial
  active := none
  provisioner := .initial
  epoch := 0
  poll := none
  loops := []
  pulls := []
  started := 0
  inbox := []
  outbox := []
  attempted := []
  workerEnded := false
  stopped := false
  handles := 1

/-- The time between two pulls unless it is chosen, in milliseconds. -/
def defaultSyncInterval : Nat := 5000

/-- Nobody can write the views any more. -/
def isGone (c : Coordinator) : Bool := c.stopped && c.handles == 0

/-! ## §3. Polling. -/

/-- Tells a loop to end. -/
def cancelLoop (i : Nat) (loops : List PollLoop) : List PollLoop :=
  loops.modify i fun l => { l with cancelled := true }

/-- Has a loop been told to end? -/
def loopCancelled (i : Nat) (c : Coordinator) : Bool :=
  match c.loops[i]? with
  | some l => l.cancelled
  | none => true

/-- Ends polling; pulls of the time before no longer count. -/
def stopPolling (c : Coordinator) : Coordinator :=
  { c with
    epoch := c.epoch + 1
    poll := none
    loops := match c.poll with
      | some i => cancelLoop i c.loops
      | none => c.loops }

/-- Starts a loop, whose first pull is due at once. -/
def startPolling (c : Coordinator) : Coordinator :=
  let c := c.stopPolling
  { c with
    poll := some c.loops.length
    loops := c.loops ++ [⟨c.epoch, false, some c.clock, false⟩] }

/-- Starts a pull, which gets the next number. -/
def startPull (loop epoch : Nat) (timed : Bool) (stage : PullStage) (c : Coordinator) : Coordinator :=
  { c with
    pulls := c.pulls ++ [⟨c.started, loop, epoch, timed, stage⟩]
    started := c.started + 1 }

/-! ## §4. Messages. -/

/-- Applies a snapshot to the views. -/
def applySnapshot (s : Snapshot) (c : Coordinator) : Coordinator :=
  { c with views := c.views.apply c.clock s }

/-- Moves to a state; observers learn of it only if it is another one. -/
def publish (next : ConnectionState) (c : Coordinator) : Coordinator :=
  { c with state := c.state.publishIfNew next }

/-- A peer list from the engine.  One that cannot be decoded, or comes after
the end of the session, is dropped. -/
def onPeerUpdate (body : String) (c : Coordinator) : Coordinator :=
  if c.state.value = .terminated then c
  else match Wire.Peer.decodeList body with
    | .ok ps => c.applySnapshot (.peers ps)
    | .error _ => c

/-- The session has ended: the views are emptied before observers learn of
the new state, and the connect attempt ends. -/
def terminate (c : Coordinator) : Coordinator :=
  let c := c.stopPolling
  let c := { c with views := c.views.clear }
  let c := c.publish .terminated
  { c with provisioner := c.provisioner.endAttempt, active := none }

/-- Moves to a state other than Terminated. -/
def move (next : ConnectionState) (c : Coordinator) : Coordinator :=
  let was := c.state.value.isConnected
  let c := if was && !next.isConnected then c.stopPolling else c
  let c := c.publish next
  if next.isConnected && !was then c.startPolling else c

/-- A callback from the engine. -/
def onCallback (cb : Callback) (c : Coordinator) : Coordinator :=
  match cb with
  | .peerUpdate body => c.onPeerUpdate body
  | cb =>
      match c.state.value.after cb with
      | none => c
      | some .terminated => c.terminate
      | some next => c.move next

/-- Queues a call, unless there is nobody any more to take it. -/
def call (e : EngineCall) (c : Coordinator) : Except RequestError Accepted × Coordinator :=
  if c.workerEnded then (.error .shutDown, c)
  else (.ok .queued, { c with outbox := c.outbox ++ [e] })

/-- A connect request; it supersedes an attempt but not a running session.  The
attempt begins, and the config is stored, before it is known whether the call
can be queued. -/
def onConnect (config : ValidatedConfig) (c : Coordinator) :
    Except RequestError Accepted × Coordinator :=
  if c.state.value.isConnected then (.error .sessionActive, c)
  else
    let c := { c with provisioner := c.provisioner.beginAttempt, active := some config }
    c.call (.connect config.json)

/-- A request for a pull; nothing happens unless a loop is polling. -/
def onRefresh (c : Coordinator) : Except RequestError Accepted × Coordinator :=
  match c.poll with
  | none => (.ok (.refresh false), c)
  | some i => (.ok (.refresh true), c.startPull i c.epoch false .waiting)

/-- A request from a caller. -/
def onCommand (command : Command) (c : Coordinator) :
    Except RequestError Accepted × Coordinator :=
  match command with
  | .connect config => c.onConnect config
  | .disconnect => c.call .disconnect
  | .switchOrg org => c.call (.switchOrg org)
  | .updateSettings body => c.call (.updateSettings body)
  | .refresh => c.onRefresh

/-- The result of a pull; it counts only in its epoch and while connected. -/
def onPulled (epoch : Nat) (snapshot : Option Snapshot) (c : Coordinator) : Coordinator :=
  if epoch ≠ c.epoch ∨ !c.state.value.isConnected then c
  else match snapshot with
    | some s => c.applySnapshot s
    | none => c

/-- Handles a message; a command is answered. -/
def handle (m : Message) (c : Coordinator) :
    Option (Except RequestError Accepted) × Coordinator :=
  match m with
  | .callback cb => (none, c.onCallback cb)
  | .command command =>
      let (reply, c) := c.onCommand command
      (some reply, c)
  | .pulled _ epoch snapshot => (none, c.onPulled epoch snapshot)

/-- Handles the next message of the queue. -/
def handleNext (c : Coordinator) : Option (Except RequestError Accepted) × Coordinator :=
  match c.inbox with
  | [] => (none, c)
  | m :: rest => { c with inbox := rest }.handle m

/-! ## §5. Everything else that happens. -/

/-- Puts a message into the queue; after shutdown it is dropped. -/
def send (m : Message) (c : Coordinator) : Coordinator :=
  if c.stopped then c else { c with inbox := c.inbox ++ [m] }

/-- The time of the pull after one that begins now. -/
def nextDue (c : Coordinator) : Option Nat :=
  if c.syncInterval = 0 then none else some (c.clock + c.syncInterval)

/-- A loop that is to begin a pull now. -/
def isDue (l : PollLoop) (now : Nat) : Bool :=
  !l.cancelled && !l.busy && (match l.due with
    | some t => t ≤ now
    | none => false)

/-- A loop begins the pull that is due. -/
def beginTimed (i : Nat) (c : Coordinator) : Coordinator :=
  match c.loops[i]? with
  | none => c
  | some l =>
      if isDue l c.clock then
        let c := { c with loops := c.loops.set i { l with busy := true, due := c.nextDue } }
        c.startPull i l.epoch true .asked
      else c

/-- A pull has ended; its loop, if it was begun by one, may begin the next. -/
def closePull (i : Nat) (p : Pull) (c : Coordinator) : Coordinator :=
  { c with
    pulls := c.pulls.eraseIdx i
    loops := if p.timed then c.loops.modify p.loop fun l => { l with busy := false } else c.loops }

/-- A requested pull begins, unless its loop was told to end. -/
def beginRefresh (i : Nat) (c : Coordinator) : Coordinator :=
  match c.pulls[i]? with
  | none => c
  | some p =>
      match p.stage with
      | .waiting =>
          if c.loopCancelled p.loop then c.closePull i p
          else { c with pulls := c.pulls.set i { p with stage := .asked } }
      | _ => c

/-- A pull has its snapshot.  If its loop was told to end meanwhile, the pull
ends without a result. -/
def endPull (i : Nat) (snapshot : Option Snapshot) (c : Coordinator) : Coordinator :=
  match c.pulls[i]? with
  | none => c
  | some p =>
      match p.stage with
      | .asked =>
          if c.loopCancelled p.loop then c.closePull i p
          else { c with pulls := c.pulls.set i { p with stage := .answered snapshot } }
      | _ => c

/-- The result of a pull goes into the queue, whatever has become of its loop
since. -/
def report (i : Nat) (c : Coordinator) : Coordinator :=
  match c.pulls[i]? with
  | none => c
  | some p =>
      match p.stage with
      | .answered snapshot => (c.closePull i p).send (.pulled p.number p.epoch snapshot)
      | _ => c

/-- How a call to the engine ends. -/
inductive CallOutcome where
  | delivered
  | failed
  /-- It did not come to an end. -/
  | panicked
deriving DecidableEq

/-- The next call is attempted.  Whatever comes of it, the state follows the
callbacks alone. -/
def callNext (_ : CallOutcome) (c : Coordinator) : Coordinator :=
  match c.outbox with
  | [] => c
  | e :: rest => { c with outbox := rest, attempted := c.attempted ++ [e] }

/-- Time passes. -/
def advance (ms : Nat) (c : Coordinator) : Coordinator := { c with clock := c.clock + ms }

/-- The worker that delivers calls ends, and those that wait are dropped.  It
does so in a shutdown, maybe while a last message is being handled. -/
def endWorker (c : Coordinator) : Coordinator := { c with workerEnded := true, outbox := [] }

/-- Ends all background work: loops end, and what is queued is dropped. -/
def shutdown (c : Coordinator) : Coordinator :=
  if c.stopped then c
  else
    let c := c.stopPolling
    { c with
      workerEnded := true
      stopped := true
      loops := c.loops.map fun l => { l with cancelled := true }
      inbox := []
      outbox := [] }

/-- One handle less. -/
def dropHandle (c : Coordinator) : Coordinator := { c with handles := c.handles - 1 }

/-- Puts a request into the queue.  One that is not valid, or comes after
shutdown, is answered at once. -/
def submit (r : Request) (c : Coordinator) : Except RequestError Unit × Coordinator :=
  match r.prepare with
  | .error cause => (.error (.rejected cause), c)
  | .ok command =>
      if c.stopped then (.error .shutDown, c)
      else (.ok (), c.send (.command command))

/-! ## §6. Actions. -/

/-- One step of a run. -/
inductive Action where
  | callback (c : Callback)
  | request (r : Request)
  | handleNext
  | beginTimed (loop : Nat)
  | beginRefresh (pull : Nat)
  | endPull (pull : Nat) (snapshot : Option Snapshot)
  /-- The result of a pull goes into the queue. -/
  | report (pull : Nat)
  | callNext (outcome : CallOutcome)
  | advance (ms : Nat)
  /-- In a shutdown that has begun, the worker ends before all else. -/
  | endWorker
  | shutdown
  | dropHandle

/-- Is the step part of a shutdown? -/
def Action.isShutdown : Action → Bool
  | endWorker => true
  | shutdown => true
  | _ => false

/-- Takes one step. -/
def act (a : Action) (c : Coordinator) : Coordinator :=
  match a with
  | .callback cb => c.send (.callback cb)
  | .request r => (c.submit r).2
  | .handleNext => c.handleNext.2
  | .beginTimed i => c.beginTimed i
  | .beginRefresh i => c.beginRefresh i
  | .endPull i s => c.endPull i s
  | .report i => c.report i
  | .callNext o => c.callNext o
  | .advance ms => c.advance ms
  | .endWorker => c.endWorker
  | .shutdown => c.shutdown
  | .dropHandle => c.dropHandle

/-- Takes steps one after the other. -/
def run (actions : List Action) (c : Coordinator) : Coordinator :=
  actions.foldl (fun c a => c.act a) c

/-! ## §7. Debug texts. -/

/-- The debug text of a connection state. -/
def stateText : ConnectionState → String
  | .authError code message =>
      Text.debugRecord "AuthError"
        [("code", Text.ofInt code.toInt), ("message", Text.quoted message)] false
  | s => s.kind

/-- The debug text of a coordinator. -/
def debugText (c : Coordinator) : String :=
  let config := Text.debugRecord "CoordinatorConfig"
    [("sync_interval", (Duration.ofMilliseconds c.syncInterval).debugText)] false
  Text.debugRecord "Coordinator" [("state", stateText c.state.value), ("config", config)] true

/-- The debug text of the engine's way into the queue. -/
def callbacksText (c : Coordinator) : String :=
  Text.debugRecord "EngineCallbacks" [("closed", if c.stopped then "true" else "false")] false

end Coordinator

end TunnelControl
