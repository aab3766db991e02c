/-
  TunnelControl.Proofs.Tunnel.Refusals
  ────────────────────────────────────
  **A REFUSED REQUEST HAS NO EFFECT.**

  A request is refused at once for its argument, or, when its turn comes, since
  the session is Connected.  In the first case nothing changes; in the second
  the request leaves the queue and nothing else changes, neither in the session
  nor in anything that is built with its provisioner.  What happens meanwhile
  is what would have happened without the request.  Any other refusal is that of
  a shutdown that has begun.

    • `handled`, `WaitsBehind`       — the queue in a run,
    • `WaitsBehind.run`              — a run with and without one more message,
    • `prepare_error_iff`            — the arguments that are refused,
    • `handleNext_sessionActive_iff`,
      `handleNext_error`             — who is refused in turn, and why,
    • `RefusedWithoutEffect`, `refused_requests_have_no_effect` — the main result.
-/
import TunnelControl.Proofs.Session.PollLoops
import TunnelControl.Proofs.Session.Waiting
import TunnelControl.Proofs.Tunnel.Runs

namespace TunnelControl

/-! ## §1. Who is refused. -/

/-- **The arguments that are refused** are those of a connect whose config has
problems and of a switch to a blank organisation. -/
theorem Request.prepare_error_iff {r : Request} {cause : Rejected} :
    r.prepare = .error cause ↔
      (∃ config, r = .connect config ∧ config.problems ≠ [] ∧ cause = ⟨config.problems⟩)
      ∨ ∃ org, r = .switchOrg org ∧ Text.trim org = "" ∧ cause = .because .orgId .blank := by
  cases r with
  | connect config =>
      by_cases sound : config.problems = []
      · simp [prepare, ConnectionConfig.validate, sound, Except.map]
      · have refused : prepare (.connect config) = .error ⟨config.problems⟩ := by
          simp [prepare, ConnectionConfig.validate, sound, Except.map]
        rw [refused]
        constructor
        · intro h
          exact .inl ⟨config, rfl, sound, (Except.error.inj h).symm⟩
        · rintro (⟨_, ⟨⟩, -, rfl⟩ | ⟨_, ⟨⟩, -⟩)
          rfl
  | switchOrg org =>
      by_cases blank : Text.trim org = ""
      · have refused : prepare (.switchOrg org) = .error (.because .orgId .blank) := by
          simp [prepare, blank]
        rw [refused]
        constructor
        · intro h
          exact .inr ⟨org, rfl, blank, (Except.error.inj h).symm⟩
        · rintro (⟨_, ⟨⟩, -⟩ | ⟨_, ⟨⟩, -, rfl⟩)
          rfl
      · simp [prepare, blank]
  | _ => simp [prepare]

namespace Coordinator

/-- What is refused at once is refused for its argument or for the end, and
changes nothing. -/
theorem submit_error {r : Request} {e : RequestError} {c : Coordinator}
    (refused : (c.submit r).1 = .error e) :
    ((∃ cause, r.prepare = .error cause ∧ e = .rejected cause) ∨ e = .shutDown)
      ∧ (c.submit r).2 = c := by
  unfold submit at refused ⊢
  cases valid : r.prepare with
  | error cause =>
      simp only [valid] at refused
      exact ⟨.inl ⟨cause, rfl, (Except.error.inj refused).symm⟩, rfl⟩
  | ok command =>
      simp only [valid] at refused ⊢
      split at refused
      next stopped =>
        rw [if_pos stopped]
        exact ⟨.inr (Except.error.inj refused).symm, rfl⟩
      next => cases refused

/-- What is not refused at once waits behind all that waited before. -/
theorem submit_ok {r : Request} {c : Coordinator} (accepted : (c.submit r).1 = .ok ()) :
    ∃ command, r.prepare = .ok command
      ∧ WaitsBehind c.inbox (.command command) c (c.submit r).2 := by
  unfold submit at accepted ⊢
  cases valid : r.prepare with
  | error cause =>
      simp only [valid] at accepted
      cases accepted
  | ok command =>
      simp only [valid] at accepted ⊢
      split at accepted
      next => cases accepted
      next running =>
        rw [if_neg running]
        exact ⟨command, rfl, waitsBehind_send (by simpa using running) (.command command)⟩

/-- A call is refused only for the end of the worker. -/
theorem call_error {e : EngineCall} {why : RequestError} {c : Coordinator}
    (refused : (c.call e).1 = .error why) : why = .shutDown ∧ c.workerEnded = true := by
  rcases call_cases e c with ⟨-, called⟩ | ⟨ended, unheard⟩
  · rw [called] at refused
    cases refused
  · rw [unheard] at refused
    exact ⟨(Except.error.inj refused).symm, ended⟩

theorem onConnect_sessionActive_iff {config : ValidatedConfig} {c : Coordinator} :
    (c.onConnect config).1 = .error .sessionActive ↔ c.state.value = .connected := by
  rw [← ConnectionState.isConnected_iff]
  rcases onConnect_cases config c with ⟨busy, e⟩ | ⟨free, -, e⟩ | ⟨free, -, e⟩
  · simp [e, busy]
  · simp [e, free]
  · simp [e, free]

/-- **The one request that is refused in its turn for the session is a connect
while Connected.** -/
theorem onCommand_sessionActive_iff {command : Command} {c : Coordinator} :
    (c.onCommand command).1 = .error .sessionActive ↔
      c.state.value = .connected ∧ ∃ config, command = .connect config := by
  have called (e : EngineCall) : (c.call e).1 ≠ .error .sessionActive :=
    fun refused => nomatch (call_error refused).1
  cases command with
  | connect config =>
      show (c.onConnect config).1 = .error .sessionActive ↔ _
      rw [onConnect_sessionActive_iff]
      simp
  | refresh =>
      show c.onRefresh.1 = .error .sessionActive ↔ _
      simp [onRefresh_reply]
  | disconnect => simpa [onCommand] using called .disconnect
  | switchOrg org => simpa [onCommand] using called (.switchOrg org)
  | updateSettings body => simpa [onCommand] using called (.updateSettings body)

/-- A request is refused in its turn for the session, or for the end of the
worker. -/
theorem onCommand_error {command : Command} {e : RequestError} {c : Coordinator}
    (refused : (c.onCommand command).1 = .error e) :
    e = .sessionActive ∨ (e = .shutDown ∧ c.workerEnded = true) := by
  cases command with
  | connect config =>
      replace refused : (c.onConnect config).1 = .error e := refused
      rcases onConnect_cases config c with ⟨-, same⟩ | ⟨-, -, same⟩ | ⟨-, ended, same⟩
      · rw [same] at refused
        exact .inl (Except.error.inj refused).symm
      · rw [same] at refused
        cases refused
      · rw [same] at refused
        exact .inr ⟨(Except.error.inj refused).symm, ended⟩
  | refresh =>
      replace refused : c.onRefresh.1 = .error e := refused
      rw [onRefresh_reply] at refused
      cases refused
  | disconnect => exact .inr (call_error refused)
  | switchOrg org => exact .inr (call_error refused)
  | updateSettings body => exact .inr (call_error refused)

/-- The answer to the request at the head of the queue. -/
theorem handleNext_reply {c : Coordinator} {command : Command} {rest : List Message}
    (next : c.inbox = .command command :: rest) :
    c.handleNext.1 = some (({ c with inbox := rest }.onCommand command).1) := by
  simp only [handleNext, next]
  rfl

theorem handleNext_sessionActive_iff {c : Coordinator} :
    c.handleNext.1 = some (.error .sessionActive) ↔
      c.state.value = .connected
        ∧ ∃ config, c.inbox.head? = some (.command (.connect config)) := by
  cases next : c.inbox with
  | nil => simp [handleNext, next]
  | cons m rest =>
      cases m with
      | command command =>
          rw [handleNext_reply next, Option.some.injEq, onCommand_sessionActive_iff]
          simp
      | callback cb => simp [handleNext, next, handle]
      | pulled number epoch snapshot => simp [handleNext, next, handle]

theorem handleNext_error {e : RequestError} {c : Coordinator}
    (refused : c.handleNext.1 = some (.error e)) :
    e = .sessionActive ∨ (e = .shutDown ∧ c.workerEnded = true) := by
  cases next : c.inbox with
  | nil => simp [handleNext, next] at refused
  | cons m rest =>
      cases m with
      | command command =>
          rw [handleNext_reply next, Option.some.injEq] at refused
          exact onCommand_error (c := { c with inbox := rest }) refused
      | callback cb => simp [handleNext, next, handle] at refused
      | pulled number epoch snapshot => simp [handleNext, next, handle] at refused

/-- A request that is refused for the session leaves the queue, and nothing else
changes. -/
theorem handleNext_of_sessionActive {c : Coordinator}
    (refused : c.handleNext.1 = some (.error .sessionActive)) :
    c.act .handleNext = c.withInbox c.inbox.tail := by
  obtain ⟨connected, config, head⟩ := handleNext_sessionActive_iff.mp refused
  obtain ⟨rest, next⟩ := List.head?_eq_some_iff.mp head
  rw [handleNext_cons next, next]
  show ({ c with inbox := rest }.onConnect config).2 = c.withInbox rest
  simp [onConnect, connected, ConnectionState.isConnected, withInbox]

/-- A session that has ended and in which nothing waits remains so. -/
theorem act_drained {c : Coordinator} (ended : c.stopped = true ∧ c.inbox = []) (a : Action) :
    (c.act a).stopped = true ∧ (c.act a).inbox = [] := by
  have change := act_change a c
  have stopped := change.stopped_mono ended.1
  exact ⟨stopped, Drained.change (fun _ => ended.2) change stopped⟩

end Coordinator

namespace Tunnel

/-! ## §2. A run with and without one more message. -/

/-- The message that a step handles. -/
def handledBy (s : Step) (t : Tunnel) : Option Message :=
  match s with
  | .session a => t.session.handledBy a
  | .building _ => none

/-- The messages that a run handles, in order. -/
def handled : List Step → Tunnel → List Message
  | [], _ => []
  | s :: steps, t => (t.handledBy s).toList ++ handled steps (t.step s)

/-- The second tunnel is the first with one more message, which waits behind
some that both have. -/
structure WaitsBehind (front : List Message) (m : Message) (t t' : Tunnel) : Prop where
  session : Coordinator.WaitsBehind front m t.session t'.session
  host : t'.host = t.host
  jobs : t'.jobs = t.jobs

variable {front : List Message} {m : Message} {t t' : Tunnel}

/-- Both take the same step if it handles no message. -/
theorem WaitsBehind.step (h : WaitsBehind front m t t') {s : Step}
    (goesOn : s ≠ .session .shutdown) (quiet : t'.handledBy s = none) :
    WaitsBehind front m (t.step s) (t'.step s) := by
  cases s with
  | session a =>
      have other : a ≠ .handleNext := by
        rintro rfl
        replace quiet : t'.session.handledBy .handleNext = none := quiet
        rw [h.session.handledBy] at quiet
        simp at quiet
      exact ⟨h.session.act other (fun e => goesOn (congrArg Step.session e)), h.host, h.jobs⟩
  | building b =>
      -- work in the workshop does not look into the queue
      obtain ⟨later, queue, same⟩ := h.session
      have workshop : t'.workshop = t.workshop := by
        simp only [Tunnel.workshop, same, h.host, h.jobs]
        rfl
      refine ⟨⟨later, queue, ?_⟩, ?_, ?_⟩
      · simp only [Tunnel.step, withWorkshop, workshop, same]
        rfl
      · simp only [Tunnel.step, withWorkshop, workshop]
      · simp only [Tunnel.step, withWorkshop, workshop]

/-- Both handle the same message while one waits in front. -/
theorem WaitsBehind.handled {x : Message} (h : WaitsBehind (x :: front) m t t') :
    WaitsBehind front m (t.step (.session .handleNext)) (t'.step (.session .handleNext)) :=
  ⟨h.session.handled, h.host, h.jobs⟩

theorem step_drained (ended : t.session.stopped = true ∧ t.session.inbox = []) (s : Step) :
    (t.step s).session.stopped = true ∧ (t.step s).session.inbox = [] := by
  cases s with
  | session a => exact Coordinator.act_drained ended a
  | building b => exact ended

theorem run_drained (ended : t.session.stopped = true ∧ t.session.inbox = []) (steps : List Step) :
    (t.run steps).session.stopped = true ∧ (t.run steps).session.inbox = [] := by
  induction steps generalizing t with
  | nil => exact ended
  | cons s steps ih => exact ih (step_drained ended s)

/-- A shutdown does nothing to either, or drops all messages of the second. -/
theorem WaitsBehind.shutdown (h : WaitsBehind front m t t') :
    (t.step (.session .shutdown) = t ∧ t'.step (.session .shutdown) = t')
      ∨ (t'.step (.session .shutdown)).session.stopped = true
        ∧ (t'.step (.session .shutdown)).session.inbox = [] := by
  obtain ⟨later, queue, same⟩ := h.session
  have both : t'.session.stopped = t.session.stopped := by
    rw [same]
    rfl
  cases stopped : t.session.stopped with
  | true =>
      rw [stopped] at both
      simp [Tunnel.step, Coordinator.act, Coordinator.shutdown, stopped, both]
  | false =>
      rw [stopped] at both
      simp [Tunnel.step, Coordinator.act, Coordinator.shutdown, both]

/-- A step that handles a message is the one of the session that does. -/
theorem eq_handleNext_of_handledBy {s : Step} {x : Message} (handles : t.handledBy s = some x) :
    s = .session .handleNext := by
  cases s with
  | building b => cases handles
  | session a =>
      by_cases other : a = .handleNext
      · rw [other]
      · replace handles : t.session.handledBy a = some x := handles
        rw [Coordinator.handledBy_eq_none other] at handles
        cases handles

/-- **Until the message is the next, both take the same steps**, unless the work
ends and the message is dropped with all others. -/
theorem WaitsBehind.run (h : WaitsBehind front m t t') {steps : List Step}
    (first : t'.handled steps = front) :
    WaitsBehind [] m (t.run steps) (t'.run steps)
      ∨ (t'.run steps).session.stopped = true ∧ (t'.run steps).session.inbox = [] := by
  induction steps generalizing front t t' with
  | nil =>
      cases first
      exact .inl h
  | cons s steps ih =>
      rw [run_cons, run_cons]
      rw [Tunnel.handled] at first
      by_cases shut : s = .session .shutdown
      · subst shut
        rcases h.shutdown with ⟨still, still'⟩ | ended
        · rw [still'] at first
          rw [still, still']
          exact ih h first
        · exact .inr (run_drained ended steps)
      · cases handles : t'.handledBy s with
        | none =>
            rw [handles] at first
            exact ih (h.step shut handles) first
        | some x =>
            rw [handles] at first
            obtain rfl := eq_handleNext_of_handledBy handles
            -- the message that is handled is one of those in front
            replace first : x :: (t'.step (.session .handleNext)).handled steps = front := first
            subst first
            exact ih h.handled rfl

/-- When the message is the next and is a request that is refused for the
session, nothing tells the two apart any more. -/
theorem WaitsBehind.refused (h : WaitsBehind [] m t t')
    (refused : t'.session.handleNext.1 = some (.error .sessionActive)) :
    t'.step (.session .handleNext) = t := by
  obtain ⟨later, queue, same⟩ := h.session
  have taken : t'.session.act .handleNext = t.session := by
    rw [Coordinator.handleNext_of_sessionActive refused, same]
    show t.session.withInbox later = t.session
    rw [← List.nil_append later, ← queue, Coordinator.withInbox_self]
  show Tunnel.mk (t'.session.act .handleNext) t'.host t'.jobs = t
  rw [taken, h.host, h.jobs]

/-! ## §3. The main result. -/

/-- What a request does that is refused, in any state of a session and of all
that is built. -/
structure RefusedWithoutEffect (t : Tunnel) : Prop where
  /-- The arguments that are refused are a config with problems and a blank
  organisation. -/
  invalid : ∀ (r : Request) (cause : Rejected), r.prepare = .error cause ↔
    (∃ config, r = .connect config ∧ config.problems ≠ [] ∧ cause = ⟨config.problems⟩)
      ∨ ∃ org, r = .switchOrg org ∧ Text.trim org = "" ∧ cause = .because .orgId .blank
  /-- A request with such an argument is refused for it. -/
  rejected : ∀ (r : Request) (cause : Rejected), r.prepare = .error cause →
    (t.session.submit r).1 = .error (.rejected cause)
  /-- A request that is refused at once, for its argument or for the end of the
  work, changes nothing. -/
  atOnce : ∀ (r : Request) (e : RequestError), (t.session.submit r).1 = .error e →
    ((∃ cause, r.prepare = .error cause ∧ e = .rejected cause) ∨ e = .shutDown)
      ∧ t.step (.session (.request r)) = t
  /-- A request whose turn has come is refused for a session that is active
  exactly if it is a connect and the state is Connected. -/
  inTurn : t.session.handleNext.1 = some (.error .sessionActive) ↔
    t.session.state.value = .connected
      ∧ ∃ config, t.session.inbox.head? = some (.command (.connect config))
  /-- It leaves the queue, and nothing else changes. -/
  leaves : t.session.handleNext.1 = some (.error .sessionActive) →
    t.step (.session .handleNext)
      = { t with session := { t.session with inbox := t.session.inbox.tail } }
  /-- A request that is refused so might as well not have been made, whatever has
  happened before its turn came. -/
  asIfNotMade : ∀ (r : Request) (between : List Step),
    (t.session.submit r).1 = .ok () →
    let asked := t.step (.session (.request r))
    asked.handled between = t.session.inbox →
    (asked.run between).session.handleNext.1 = some (.error .sessionActive) →
    (asked.run between).step (.session .handleNext) = t.run between
  /-- In its turn no request is refused for anything else, as long as no shutdown
  has ended the worker. -/
  others : ∀ e : RequestError, t.session.handleNext.1 = some (.error e) →
    e = .sessionActive ∨ (e = .shutDown ∧ t.session.workerEnded = true)

/-- **A refused request has no effect**, in whatever state it is made. -/
theorem refused_requests_have_no_effect (t : Tunnel) : RefusedWithoutEffect t where
  invalid := fun _ _ => Request.prepare_error_iff
  rejected := by
    intro r cause invalid
    simp [Coordinator.submit, invalid]
  atOnce := by
    intro r e refused
    obtain ⟨why, same⟩ := Coordinator.submit_error refused
    refine ⟨why, ?_⟩
    show { t with session := (t.session.submit r).2 } = t
    rw [same]
  inTurn := Coordinator.handleNext_sessionActive_iff
  leaves := by
    intro refused
    show { t with session := t.session.act .handleNext } = _
    rw [Coordinator.handleNext_of_sessionActive refused]
    rfl
  asIfNotMade := by
    intro r between accepted asked first refused
    obtain ⟨command, -, made⟩ := Coordinator.submit_ok accepted
    have behind : WaitsBehind t.session.inbox (.command command) t asked := ⟨made, rfl, rfl⟩
    rcases behind.run first with next | ⟨-, dropped⟩
    · exact next.refused refused
    · obtain ⟨-, config, head⟩ := Coordinator.handleNext_sessionActive_iff.mp refused
      rw [dropped] at head
      cases head
  others := fun _ => Coordinator.handleNext_error

/-- A connect while Connected, with another config, a waiting switch of the
organisation and a builder in use: once it is refused, all is as it would be
without it. -/
example :
    let t := (start 5000).run [.building ⟨.attach ⟨"os", fun _ => .ok (), fun _ => true⟩, rfl⟩,
      .building ⟨.openJob, rfl⟩, .building ⟨.enter 0, rfl⟩, .session (.callback .connected),
      .session .handleNext, .session (.request (.switchOrg "acme"))]
    let again : Request := .connect { endpoint := "vpn", userToken := some "t" }
    let between : List Step := [.session (.beginTimed 0), .session .handleNext, .session (.advance 1)]
    let asked := t.step (.session (.request again))
    (asked.run between).session.handleNext.1 = some (.error .sessionActive)
      ∧ (asked.run between).step (.session .handleNext) = t.run between := by
  exact ⟨rfl, rfl⟩

end Tunnel

end TunnelControl
