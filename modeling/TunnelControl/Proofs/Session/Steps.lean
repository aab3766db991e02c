/-
  TunnelControl.Proofs.Session.Steps
  ──────────────────────────────────
  **WHAT ONE STEP OF A SESSION CAN DO.**

  Every message and every action is taken apart once, here; the invariants of
  a session are then short case analyses that never open a handler again.

    • `run_concat`, `run_induction` — runs, taken apart,
    • `handled`                     — the messages that a run handles,
    • `onCallback_cases`, `onPeerUpdate_cases`, `onPulled_cases`,
      `call_cases`, `onConnect_cases` — the ways of one handler,
    • `onConnect_frame`, `onCommand_frame` — what no request touches,
    • `Handling`, `handle_handling` — what a message does to state and pulls,
    • `Change`, `act_change`        — what an action does,
    • `Change.observed`             — state and views wait for a message.
-/
import TunnelControl.Session.Coordinator

namespace TunnelControl

theorem ConnectionState.isConnected_iff {s : ConnectionState} :
    s.isConnected = true ↔ s = .connected := by
  cases s <;> simp [ConnectionState.isConnected]

namespace Coordinator

/-! ## §1. Runs. -/

@[simp] theorem run_nil (c : Coordinator) : c.run [] = c := rfl

@[simp] theorem run_cons (a : Action) (actions : List Action) (c : Coordinator) :
    c.run (a :: actions) = (c.act a).run actions := rfl

theorem run_append (before after : List Action) (c : Coordinator) :
    c.run (before ++ after) = (c.run before).run after := by
  simp only [run, List.foldl_append]

theorem run_concat (actions : List Action) (a : Action) (c : Coordinator) :
    c.run (actions ++ [a]) = (c.run actions).act a := by
  rw [run_append, run_cons, run_nil]

/-- What every step keeps holds after every run. -/
theorem run_induction {P : Coordinator → Prop} (step : ∀ c a, P c → P (c.act a))
    {c : Coordinator} (h : P c) (actions : List Action) : P (c.run actions) := by
  induction actions generalizing c with
  | nil => exact h
  | cons a actions ih => exact ih (step c a h)

/-- The message that an action handles. -/
def handledBy (a : Action) (c : Coordinator) : Option Message :=
  match a with
  | .handleNext => c.inbox.head?
  | _ => none

/-- The messages that a run handles, in order. -/
def handled : List Action → Coordinator → List Message
  | [], _ => []
  | a :: actions, c => (c.handledBy a).toList ++ handled actions (c.act a)

/-! ## §2. Callbacks. -/

/-- A callback is a peer update, ends the session, or leads to another state. -/
theorem onCallback_cases (cb : Callback) (c : Coordinator) :
    (∃ body, cb = .peerUpdate body ∧ c.onCallback cb = c.onPeerUpdate body)
      ∨ (cb = .terminated ∧ c.onCallback cb = c.terminate)
      ∨ (∃ next, next ≠ .terminated ∧ c.state.value.after cb = some next
          ∧ c.onCallback cb = c.move next) := by
  cases cb with
  | peerUpdate body => exact .inl ⟨body, rfl, rfl⟩
  | terminated => exact .inr (.inl ⟨rfl, rfl⟩)
  | registered => exact .inr (.inr ⟨.registered, by simp, rfl, rfl⟩)
  | connected => exact .inr (.inr ⟨.connected, by simp, rfl, rfl⟩)
  | authError code message => exact .inr (.inr ⟨.authError code message, by simp, rfl, rfl⟩)

/-- A move leaves Connected, enters it, or does neither. -/
theorem move_cases (next : ConnectionState) (c : Coordinator) :
    (c.state.value.isConnected = true ∧ next.isConnected = false
        ∧ c.move next = c.stopPolling.publish next)
      ∨ (c.state.value.isConnected = false ∧ next.isConnected = true
        ∧ c.move next = (c.publish next).startPolling)
      ∨ (next.isConnected = c.state.value.isConnected ∧ c.move next = c.publish next) := by
  cases hw : c.state.value.isConnected <;> cases hn : next.isConnected <;>
    simp [move, hw, hn]

/-- A move writes the state and starts or stops polling, and nothing else. -/
theorem move_frame (next : ConnectionState) (c : Coordinator) : ∃ epoch poll loops,
    c.move next = { c with state := c.state.publishIfNew next, epoch, poll, loops } := by
  rcases move_cases next c with ⟨-, -, e⟩ | ⟨-, -, e⟩ | ⟨-, e⟩
  · rw [e]
    exact ⟨_, _, _, rfl⟩
  · rw [e]
    exact ⟨_, _, _, rfl⟩
  · rw [e]
    exact ⟨_, _, _, rfl⟩

/-- A peer update changes views and nothing else; none after the end. -/
theorem onPeerUpdate_cases (body : String) (c : Coordinator) :
    c.onPeerUpdate body = c
      ∨ (c.state.value ≠ .terminated
        ∧ ∃ ps, c.onPeerUpdate body = c.applySnapshot (.peers ps)) := by
  unfold onPeerUpdate
  split
  next => exact .inl rfl
  next ht =>
    split
    next ps _ => exact .inr ⟨ht, ps, rfl⟩
    next => exact .inl rfl

/-! ## §3. Messages. -/

/-- The result of a pull changes views and nothing else, and that only in its
epoch and while connected. -/
theorem onPulled_cases (epoch : Nat) (snapshot : Option Snapshot) (c : Coordinator) :
    c.onPulled epoch snapshot = c
      ∨ (epoch = c.epoch ∧ c.state.value.isConnected = true
        ∧ ∃ s, snapshot = some s ∧ c.onPulled epoch snapshot = c.applySnapshot s) := by
  unfold onPulled
  split
  next => exact .inl rfl
  next hc =>
    simp only [ne_eq, Bool.not_eq_true', not_or, Decidable.not_not, Bool.not_eq_false] at hc
    cases snapshot with
    | none => exact .inl rfl
    | some s => exact .inr ⟨hc.1, hc.2, s, rfl, rfl⟩

/-- A call is queued, unless the worker has ended. -/
theorem call_cases (e : EngineCall) (c : Coordinator) :
    (c.workerEnded = false ∧ c.call e = (.ok .queued, { c with outbox := c.outbox ++ [e] }))
      ∨ (c.workerEnded = true ∧ c.call e = (.error .shutDown, c)) := by
  cases hw : c.workerEnded <;> simp [call, hw]

/-- A connect request is refused while Connected; otherwise it begins an attempt
and stores its config, whether its call is queued or the worker has ended. -/
theorem onConnect_cases (config : ValidatedConfig) (c : Coordinator) :
    (c.state.value.isConnected = true ∧ c.onConnect config = (.error .sessionActive, c))
      ∨ (c.state.value.isConnected = false ∧ c.workerEnded = false
          ∧ c.onConnect config = (.ok .queued,
            { c with
              provisioner := c.provisioner.beginAttempt
              active := some config
              outbox := c.outbox ++ [.connect config.json] }))
      ∨ (c.state.value.isConnected = false ∧ c.workerEnded = true
          ∧ c.onConnect config = (.error .shutDown,
            { c with
              provisioner := c.provisioner.beginAttempt
              active := some config })) := by
  cases hc : c.state.value.isConnected <;> cases hw : c.workerEnded <;>
    simp [onConnect, call, hc, hw]

/-- Unless it is refused while Connected, a connect request begins an attempt and
stores its config; besides it may queue a call. -/
theorem onConnect_frame (config : ValidatedConfig) (c : Coordinator) :
    c.onConnect config = (.error .sessionActive, c)
      ∨ (c.onConnect config).1 ≠ .error .sessionActive
        ∧ ∃ outbox, (c.onConnect config).2
          = { c with provisioner := c.provisioner.beginAttempt, active := some config, outbox } := by
  rcases onConnect_cases config c with ⟨-, e⟩ | ⟨-, -, e⟩ | ⟨-, -, e⟩
  · exact .inl e
  · rw [e]
    exact .inr ⟨by simp, _, rfl⟩
  · rw [e]
    exact .inr ⟨by simp, c.outbox, rfl⟩

/-- A call touches its queue, and nothing else. -/
theorem call_frame (e : EngineCall) (c : Coordinator) :
    ∃ outbox, (c.call e).2 = { c with outbox } := by
  rcases call_cases e c with ⟨-, called⟩ | ⟨-, refused⟩
  · rw [called]
    exact ⟨_, rfl⟩
  · rw [refused]
    exact ⟨c.outbox, rfl⟩

/-- **A request touches neither the state nor the views**, nor the queue of
messages. -/
theorem onCommand_frame (command : Command) (c : Coordinator) :
    ∃ active provisioner pulls started outbox,
      (c.onCommand command).2 = { c with active, provisioner, pulls, started, outbox } := by
  have calls (e : EngineCall) : ∃ active provisioner pulls started outbox,
      (c.call e).2 = { c with active, provisioner, pulls, started, outbox } := by
    obtain ⟨outbox, called⟩ := call_frame e c
    exact ⟨_, _, _, _, outbox, called⟩
  cases command with
  | connect config =>
      show ∃ active provisioner pulls started outbox,
        (c.onConnect config).2 = { c with active, provisioner, pulls, started, outbox }
      rcases onConnect_frame config c with e | ⟨-, outbox, e⟩
      · rw [e]
        exact ⟨_, _, _, _, _, rfl⟩
      · rw [e]
        exact ⟨_, _, _, _, outbox, rfl⟩
  | disconnect => exact calls .disconnect
  | switchOrg org => exact calls (.switchOrg org)
  | updateSettings body => exact calls (.updateSettings body)
  | refresh =>
      show ∃ active provisioner pulls started outbox,
        c.onRefresh.2 = { c with active, provisioner, pulls, started, outbox }
      unfold onRefresh
      split
      next => exact ⟨_, _, _, _, _, rfl⟩
      next => exact ⟨_, _, _, _, _, rfl⟩

/-- The ways in which a message changes a session. -/
inductive Handling (c : Coordinator) : Coordinator → Prop where
  /-- Views, the attempt and calls change; the state and its pulls do not. -/
  | quiet (views : Views) (provisioner : Provisioner) (active : Option ValidatedConfig)
      (outbox : List EngineCall) : Handling c { c with views, provisioner, active, outbox }
  /-- A pull is started on request. -/
  | pulling (i : Nat) (poll : c.poll = some i) :
      Handling c (c.startPull i c.epoch false .waiting)
  /-- The session ends. -/
  | ending : Handling c c.terminate
  /-- The state leaves Connected. -/
  | leaving (next : ConnectionState) (isNot : next.isConnected = false) :
      Handling c (c.stopPolling.publish next)
  /-- The state becomes Connected. -/
  | entering (next : ConnectionState) (was : c.state.value.isConnected = false)
      (now : next.isConnected = true) : Handling c (c.publish next).startPolling
  /-- The state moves, or not, without leaving or entering Connected. -/
  | staying (next : ConnectionState) (same : next.isConnected = c.state.value.isConnected) :
      Handling c (c.publish next)

theorem Handling.refl (c : Coordinator) : Handling c c :=
  .quiet c.views c.provisioner c.active c.outbox

theorem onCallback_handling (cb : Callback) (c : Coordinator) : Handling c (c.onCallback cb) := by
  rcases onCallback_cases cb c with ⟨body, -, e⟩ | ⟨-, e⟩ | ⟨next, -, -, e⟩
  · rw [e]
    rcases onPeerUpdate_cases body c with e | ⟨-, ps, e⟩
    · rw [e]
      exact .refl c
    · rw [e]
      exact .quiet _ c.provisioner c.active c.outbox
  · rw [e]
    exact .ending
  · rw [e]
    rcases move_cases next c with ⟨-, hn, e⟩ | ⟨hw, hn, e⟩ | ⟨hs, e⟩
    · rw [e]
      exact .leaving next hn
    · rw [e]
      exact .entering next hw hn
    · rw [e]
      exact .staying next hs

theorem call_handling (e : EngineCall) (c : Coordinator) : Handling c (c.call e).2 := by
  obtain ⟨outbox, called⟩ := call_frame e c
  rw [called]
  exact .quiet c.views c.provisioner c.active outbox

theorem onCommand_handling (command : Command) (c : Coordinator) :
    Handling c (c.onCommand command).2 := by
  cases command with
  | connect config =>
      show Handling c (c.onConnect config).2
      rcases onConnect_frame config c with e | ⟨-, outbox, e⟩
      · rw [e]
        exact .refl c
      · rw [e]
        exact .quiet c.views _ _ outbox
  | disconnect => exact call_handling _ c
  | switchOrg org => exact call_handling _ c
  | updateSettings body => exact call_handling _ c
  | refresh =>
      show Handling c c.onRefresh.2
      unfold onRefresh
      split
      next => exact .refl c
      next i hi => exact .pulling i hi

/-- **Every message changes a session in one of these ways.** -/
theorem handle_handling (m : Message) (c : Coordinator) : Handling c (c.handle m).2 := by
  cases m with
  | callback cb => exact onCallback_handling cb c
  | command command => exact onCommand_handling command c
  | pulled number epoch snapshot =>
      show Handling c (c.onPulled epoch snapshot)
      rcases onPulled_cases epoch snapshot c with e | ⟨-, -, s, -, e⟩
      · rw [e]
        exact .refl c
      · rw [e]
        exact .quiet _ c.provisioner c.active c.outbox

/-! ## §4. Actions. -/

/-- The ways in which an action changes a session. -/
inductive Change (a : Action) (c : Coordinator) : Coordinator → Prop where
  /-- Time passes, a call is attempted, the worker ends with those that wait, or
  a handle is given up. -/
  | aside (clock : Nat) (outbox attempted : List EngineCall) (workerEnded : Bool) (handles : Nat)
      (calls : attempted ++ outbox <+: c.attempted ++ c.outbox) :
      Change a c { c with clock, outbox, attempted, workerEnded, handles }
  /-- A callback or a request goes into the queue. -/
  | sent (m : Message) (notPulled : ∀ n e s, m ≠ .pulled n e s) (running : c.stopped = false) :
      Change a c { c with inbox := c.inbox ++ [m] }
  /-- The first message of the queue is handled. -/
  | handled (m : Message) (rest : List Message) (action : a = .handleNext)
      (next : c.inbox = m :: rest) : Change a c ({ c with inbox := rest }.handle m).2
  /-- A loop that was not told to end begins the pull that is due. -/
  | begun (i : Nat) (l : PollLoop) (loop : c.loops[i]? = some l) (live : l.cancelled = false)
      (due : isDue l c.clock = true) :
      Change a c
        ({ c with loops := c.loops.set i { l with busy := true, due := c.nextDue } }.startPull
          i l.epoch true .asked)
  /-- A pull ends without a result. -/
  | ended (i : Nat) (p : Pull) (pull : c.pulls[i]? = some p) : Change a c (c.closePull i p)
  /-- A pull comes further, whose loop was not told to end. -/
  | staged (i : Nat) (p : Pull) (stage : PullStage) (pull : c.pulls[i]? = some p)
      (live : c.loopCancelled p.loop = false) :
      Change a c { c with pulls := c.pulls.set i { p with stage := stage } }
  /-- A pull ends, and its result goes into the queue. -/
  | reported (i : Nat) (p : Pull) (snapshot : Option Snapshot) (pull : c.pulls[i]? = some p)
      (running : c.stopped = false) :
      Change a c { c.closePull i p with inbox := c.inbox ++ [.pulled p.number p.epoch snapshot] }
  /-- All background work ends. -/
  | stopped (running : c.stopped = false) : Change a c c.shutdown

theorem Change.refl (a : Action) (c : Coordinator) : Change a c c :=
  .aside c.clock c.outbox c.attempted c.workerEnded c.handles (List.prefix_refl _)

/-- A message other than the result of a pull is queued or dropped. -/
theorem send_change {a : Action} (m : Message) (notPulled : ∀ n e s, m ≠ .pulled n e s)
    (c : Coordinator) : Change a c (c.send m) := by
  unfold send
  split
  next => exact .refl a c
  next running => exact .sent m notPulled (by simpa using running)

theorem beginTimed_change (a : Action) (i : Nat) (c : Coordinator) :
    Change a c (c.beginTimed i) := by
  unfold beginTimed
  split
  next => exact .refl a c
  next l hl =>
    split
    next due =>
      have ready := due
      simp only [isDue, Bool.and_eq_true, Bool.not_eq_true'] at ready
      exact .begun i l hl ready.1.1 due
    next => exact .refl a c

theorem beginRefresh_change (a : Action) (i : Nat) (c : Coordinator) :
    Change a c (c.beginRefresh i) := by
  unfold beginRefresh
  split
  next => exact .refl a c
  next p hp =>
    split
    next =>
      split
      next => exact .ended i p hp
      next live => exact .staged i p .asked hp (Bool.not_eq_true _ ▸ live)
    next => exact .refl a c

theorem endPull_change (a : Action) (i : Nat) (snapshot : Option Snapshot) (c : Coordinator) :
    Change a c (c.endPull i snapshot) := by
  unfold endPull
  split
  next => exact .refl a c
  next p hp =>
    split
    next =>
      split
      next => exact .ended i p hp
      next live => exact .staged i p (.answered snapshot) hp (Bool.not_eq_true _ ▸ live)
    next => exact .refl a c

theorem report_change (a : Action) (i : Nat) (c : Coordinator) : Change a c (c.report i) := by
  unfold report
  split
  next => exact .refl a c
  next p hp =>
    split
    next snapshot _ =>
      -- after shutdown nothing takes the result
      unfold send
      split
      next => exact .ended i p hp
      next running => exact .reported i p snapshot hp (Bool.not_eq_true _ ▸ running)
    next => exact .refl a c

/-- **Every action changes a session in one of these ways.** -/
theorem act_change (a : Action) (c : Coordinator) : Change a c (c.act a) := by
  cases a with
  | callback cb => exact send_change (.callback cb) (by simp) c
  | request r =>
      show Change _ c (c.submit r).2
      unfold submit
      split
      next => exact .refl _ c
      next command _ =>
        split
        next => exact .refl _ c
        next => exact send_change (.command command) (by simp) c
  | handleNext =>
      show Change _ c c.handleNext.2
      unfold handleNext
      split
      next => exact .refl _ c
      next m rest hm => exact .handled m rest rfl hm
  | beginTimed i => exact beginTimed_change _ i c
  | beginRefresh i => exact beginRefresh_change _ i c
  | endPull i snapshot => exact endPull_change _ i snapshot c
  | report i => exact report_change _ i c
  | callNext outcome =>
      show Change _ c (c.callNext outcome)
      unfold callNext
      split
      next => exact .refl _ c
      next e rest he =>
        -- the call changes lists; the two in a row stay the same
        exact .aside c.clock rest (c.attempted ++ [e]) c.workerEnded c.handles (by simp [he])
  | advance ms =>
      exact .aside (c.clock + ms) c.outbox c.attempted c.workerEnded c.handles (List.prefix_refl _)
  | endWorker => exact .aside c.clock [] c.attempted true c.handles (by simp)
  | shutdown =>
      -- a second shutdown does nothing
      cases hs : c.stopped with
      | true =>
          have e : c.act .shutdown = c := by simp [act, shutdown, hs]
          rw [e]
          exact .refl _ c
      | false => exact .stopped hs
  | dropHandle =>
      exact .aside c.clock c.outbox c.attempted c.workerEnded (c.handles - 1) (List.prefix_refl _)

/-- State and views change only when a message is handled. -/
theorem Change.observed {a : Action} {c c' : Coordinator} (step : Change a c c') :
    (c'.state = c.state ∧ c'.views = c.views)
      ∨ ∃ m rest, a = .handleNext ∧ c.inbox = m :: rest
          ∧ c' = ({ c with inbox := rest }.handle m).2 := by
  cases step with
  | handled m rest action next => exact .inr ⟨m, rest, action, next, rfl⟩
  | aside => exact .inl ⟨rfl, rfl⟩
  | sent => exact .inl ⟨rfl, rfl⟩
  | begun => exact .inl ⟨rfl, rfl⟩
  | ended => exact .inl ⟨rfl, rfl⟩
  | staged => exact .inl ⟨rfl, rfl⟩
  | reported => exact .inl ⟨rfl, rfl⟩
  | stopped running => exact .inl (by simp [shutdown, running, stopPolling])

end Coordinator

end TunnelControl
