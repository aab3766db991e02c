/-
  TunnelControl.Proofs.Session.Delivery
  ─────────────────────────────────────
  **EVERY ACCEPTED REQUEST REACHES THE ENGINE ONCE, IN ORDER.**

  A request passes two queues: it waits to be handled, and the call that it
  amounts to waits to be delivered.  Both are conserved.  A call leaves its
  queue however it ends, and nothing else in the session depends on that.

    • `acceptedCalls`              — the calls of the accepted requests,
    • `act_calls`, `run_calls`     — the queue of calls is conserved,
    • `run_callNext`               — the worker empties it,
    • `Delivery.run_session`, `Delivery.run_engine` — the engine has seen what
                                     was attempted, and nothing depends on it,
    • `Delivery.accepted_requests_are_called_in_order`.
-/
import TunnelControl.Proofs.Session.Calls
import TunnelControl.Proofs.Session.Requests
import TunnelControl.Session.Delivery

namespace TunnelControl

/-- The call that a request amounts to; a request for a pull amounts to none. -/
def Command.call? : Command → Option EngineCall
  | connect config => some (.connect config.json)
  | disconnect => some .disconnect
  | switchOrg org => some (.switchOrg org)
  | updateSettings body => some (.updateSettings body)
  | refresh => none

namespace Coordinator

/-! ## §1. The calls of accepted requests. -/

/-- The call of a request, if its answer accepts it. -/
def acceptedCall? (r : Command × Except RequestError Accepted) : Option EngineCall :=
  match r.2 with
  | .ok _ => r.1.call?
  | .error _ => none

/-- The calls of the requests that a run accepts, in the order it handles them. -/
def acceptedCalls (actions : List Action) (c : Coordinator) : List EngineCall :=
  (c.answered actions).filterMap acceptedCall?

/-- What is queued of a call is told by its answer. -/
theorem queueable_eq {command : Command} {e : EngineCall} (amounts : command.call? = some e)
    (c : Coordinator) : c.queueable e = (acceptedCall? (command, (c.call e).1)).toList := by
  rcases call_cases e c with ⟨works, called⟩ | ⟨ended, refused⟩
  · rw [called]
    simp [queueable, works, acceptedCall?, amounts]
  · rw [refused]
    simp [queueable, ended, acceptedCall?]

/-- Handling a request queues its call if it is accepted, and nothing if not. -/
theorem callsOf_command (command : Command) (c : Coordinator) :
    c.callsOf (.command command) = (acceptedCall? (command, (c.onCommand command).1)).toList := by
  cases command with
  | connect config =>
      show c.callsOf (.command (.connect config))
        = (acceptedCall? (.connect config, (c.onConnect config).1)).toList
      rcases onConnect_cases config c with ⟨busy, e⟩ | ⟨free, works, e⟩ | ⟨free, ended, e⟩
      · rw [e]
        simp [callsOf, busy, acceptedCall?]
      · rw [e]
        simp [callsOf, queueable, free, works, acceptedCall?, Command.call?]
      · rw [e]
        simp [callsOf, queueable, free, ended, acceptedCall?]
  | disconnect => exact queueable_eq rfl c
  | switchOrg org => exact queueable_eq rfl c
  | updateSettings body => exact queueable_eq rfl c
  | refresh =>
      show [] = (acceptedCall? (.refresh, c.onRefresh.1)).toList
      unfold onRefresh
      split
      next => rfl
      next => rfl

/-! ## §2. The queue of calls. -/

/-- **A step adds the call of the request it accepts, and takes none away**
from those that were attempted or wait, in this order. -/
theorem act_calls {a : Action} (goesOn : a.isShutdown = false) (c : Coordinator) :
    (c.act a).attempted ++ (c.act a).outbox
      = c.attempted ++ c.outbox ++ (c.answeredBy a).toList.filterMap acceptedCall? := by
  have way := act_way a c
  generalize c.act a = c' at way ⊢
  cases way with
  | aside sent frame other =>
      rw [answeredBy_eq_none other, frame.eq]
      exact (List.append_nil _).symm
  | idle empty => simp [answeredBy, empty]
  | handled m rest next =>
      obtain ⟨outbox, attempted⟩ := handle_calls m { c with inbox := rest }
      rw [outbox, attempted, ← List.append_assoc]
      congr 1
      cases m with
      | command command =>
          rw [answeredBy_command next, callsOf_command]
          cases h : acceptedCall? (command, ({ c with inbox := rest }.onCommand command).1) with
          | none => simp [h]
          | some e => simp [h]
      | callback cb =>
          rw [answeredBy_other next rfl]
          rfl
      | pulled number epoch snapshot =>
          rw [answeredBy_other next rfl]
          rfl
  | called o =>
      -- the call changes lists; the two in a row stay the same
      show (c.attempted ++ c.outbox.head?.toList) ++ c.outbox.tail = c.attempted ++ c.outbox ++ []
      cases c.outbox with
      | nil => simp
      | cons e rest => simp
  | workerEnds => cases goesOn
  | shut => cases goesOn

/-- Calls are attempted by the worker alone. -/
theorem act_attempted {a : Action} (other : ∀ o, a ≠ .callNext o) (c : Coordinator) :
    (c.act a).attempted = c.attempted := by
  have way := act_way a c
  generalize c.act a = c' at way ⊢
  cases way with
  | aside sent frame => rw [frame.eq]
  | idle => rfl
  | handled m rest => exact (handle_calls m _).2
  | called o => exact absurd rfl (other o)
  | workerEnds => rfl
  | shut =>
      unfold shutdown
      split
      next => rfl
      next => rfl

/-- **The calls that were attempted or wait are those of the accepted
requests, in the order they were handled.** -/
theorem run_calls {actions : List Action} (goesOn : ∀ a ∈ actions, a.isShutdown = false)
    (c : Coordinator) :
    (c.run actions).attempted ++ (c.run actions).outbox
      = c.attempted ++ c.outbox ++ c.acceptedCalls actions := by
  induction actions generalizing c with
  | nil => exact (List.append_nil _).symm
  | cons a actions ih =>
      rw [List.forall_mem_cons] at goesOn
      rw [run_cons, ih goesOn.2, act_calls goesOn.1, List.append_assoc, acceptedCalls,
        acceptedCalls, answered, List.filterMap_append]

/-- The worker's next turns attempt the calls that wait, one a turn. -/
theorem run_callNext (turns : List CallOutcome) (c : Coordinator) :
    (c.run (turns.map Action.callNext)).attempted
      = c.attempted ++ c.outbox.take turns.length := by
  induction turns generalizing c with
  | nil => simp
  | cons o turns ih =>
      rw [List.map_cons, run_cons, ih]
      show (c.callNext o).attempted ++ (c.callNext o).outbox.take turns.length = _
      rw [callNext_eq]
      cases next : c.outbox with
      | nil => simp
      | cons e rest => simp

end Coordinator

/-! ## §3. The engine. -/

/-- The state of an engine after calls, one after the other. -/
def Engine.after {σ : Type} (engine : Engine σ) (s : σ) (calls : List EngineCall) : σ :=
  calls.foldl (fun s e => (e.deliver engine s).2) s

namespace Delivery

open Coordinator

variable {σ : Type} (engine : Engine σ) (breaks : EngineCall → σ → Bool)

/-- The session takes the same step whatever comes of a call. -/
theorem act_session (a : Action) (d : Delivery σ) :
    (d.act engine breaks a).session = d.session.act a := by
  cases a with
  | callNext o =>
      show (d.callNext engine breaks).session = d.session.callNext o
      unfold callNext
      split
      next empty => simp [Coordinator.callNext, empty]
      next => rfl
  | _ => rfl

/-- **The session does not depend on what comes of its calls.** -/
theorem run_session (actions : List Action) (d : Delivery σ) :
    (d.run engine breaks actions).session = d.session.run actions := by
  induction actions generalizing d with
  | nil => rfl
  | cons a actions ih =>
      show ((d.act engine breaks a).run engine breaks actions).session = _
      rw [ih, act_session, run_cons]

theorem act_engine {s : σ} {a : Action} {d : Delivery σ}
    (seen : d.engine = engine.after s d.session.attempted) :
    (d.act engine breaks a).engine
      = engine.after s (d.act engine breaks a).session.attempted := by
  rw [act_session]
  by_cases calls : ∃ o, a = .callNext o
  · obtain ⟨o, rfl⟩ := calls
    show (d.callNext engine breaks).engine = engine.after s (d.session.callNext o).attempted
    rw [callNext_eq]
    unfold callNext
    cases next : d.session.outbox with
    | nil =>
        rw [List.head?_nil, Option.toList_none, List.append_nil]
        exact seen
    | cons e rest =>
        show (e.deliver engine d.engine).2 = engine.after s (d.session.attempted ++ [e])
        rw [Engine.after, List.foldl_append, seen]
        rfl
  · rw [not_exists] at calls
    rw [act_attempted calls]
    cases a with
    | callNext o => exact absurd rfl (calls o)
    | _ => exact seen

/-- **The engine has seen the calls that were attempted**, each at the entry
of its name, in order. -/
theorem run_engine {s : σ} (actions : List Action) {d : Delivery σ}
    (seen : d.engine = engine.after s d.session.attempted) :
    (d.run engine breaks actions).engine
      = engine.after s (d.run engine breaks actions).session.attempted := by
  induction actions generalizing d with
  | nil => exact seen
  | cons a actions ih => exact ih (act_engine engine breaks seen)

/-! ## §4. The main result. -/

/-- What holds of a session and its engine after a run. -/
structure CallsInOrder (interval : Nat) (s : σ) (actions : List Action) (d : Delivery σ) :
    Prop where
  /-- The requests that were made and passed the check of their argument are
  those that were answered, in the same order, and those that wait. -/
  requests : actions.filterMap submittedBy
    = ((Coordinator.start interval).answered actions).map Prod.fst ++ d.session.waiting
  /-- The calls that were attempted are the first of those that the accepted
  requests amount to, in the order they were handled. -/
  order : d.session.attempted <+: (Coordinator.start interval).acceptedCalls actions
  /-- They are all of them as soon as no call waits. -/
  complete : d.session.outbox = [] →
    d.session.attempted = (Coordinator.start interval).acceptedCalls actions
  /-- That comes with as many turns of the worker as calls wait, whatever comes
  of them. -/
  drained : ∀ turns : List CallOutcome, d.session.outbox.length ≤ turns.length →
    (d.run engine breaks (turns.map Action.callNext)).session.attempted
      = (Coordinator.start interval).acceptedCalls actions
  /-- The engine has seen these calls, each at the entry of its name, and no
  others. -/
  heard : d.engine = engine.after s d.session.attempted
  /-- The next call moves to the record, whatever comes of it; the state, the
  views, the config, the attempt and all the rest stay as they are. -/
  aside : (d.callNext engine breaks).session = { d.session with
    outbox := d.session.outbox.tail
    attempted := d.session.attempted ++ d.session.outbox.head?.toList }

/-- **Every accepted request is called once, with its own argument, in the
order in which requests are handled**, whatever comes of the calls; refused
requests are not called.  That holds as long as no shutdown has begun. -/
theorem accepted_requests_are_called_in_order (interval : Nat) (s : σ) (actions : List Action)
    (goesOn : ∀ a ∈ actions, a.isShutdown = false) :
    CallsInOrder engine breaks interval s actions
      ((start interval s).run engine breaks actions) := by
  have session := run_session engine breaks actions (start interval s)
  have calls : ((start interval s).run engine breaks actions).session.attempted
      ++ ((start interval s).run engine breaks actions).session.outbox
      = (Coordinator.start interval).acceptedCalls actions := by
    rw [session]
    exact run_calls goesOn (Coordinator.start interval)
  refine ⟨?_, ⟨_, calls⟩, fun empty => ?_, fun turns enough => ?_, ?_, ?_⟩
  · have running : (Coordinator.start interval).stopped = false := rfl
    have lasts : Action.shutdown ∉ actions := fun listed => nomatch goesOn _ listed
    rw [session]
    exact run_requests running lasts
  · rw [empty, List.append_nil] at calls
    exact calls
  · rw [run_session, run_callNext, List.take_of_length_le enough, calls]
  · exact run_engine engine breaks actions rfl
  · exact (act_session engine breaks (.callNext .delivered) _).trans (callNext_eq .delivered _)

/-- An engine fails every call and does not come to an end in a disconnect.  Of
seven requests one is refused before it waits, one while Connected, and one
asks for a pull; the calls of the others are attempted in their order. -/
theorem failing_calls_are_attempted_in_order :
    let engine := Engine.recording (.error .unavailable)
    let breaks : EngineCall → List String → Bool := fun e _ => e = .disconnect
    let config : ConnectionConfig := { endpoint := "vpn", userToken := some "t" }
    let actions : List Action :=
      [.request (.connect config), .request .disconnect, .request (.switchOrg "  "),
        .callback .connected, .request (.connect config), .request (.switchOrg " o "),
        .request .refresh, .request .disconnect, .handleNext, .callNext .delivered, .handleNext,
        .handleNext, .handleNext, .handleNext, .callNext .delivered, .handleNext, .handleNext,
        .callNext .delivered]
    let d := (start 5000 []).run engine breaks actions
    let calls := (Coordinator.start 5000).acceptedCalls actions
    calls.map EngineCall.name = ["connect", "disconnect", "switchOrg", "disconnect"]
      ∧ d.session.attempted = calls.take 3 ∧ d.engine.tail = ["disconnect", "switchOrg o"]
      ∧ CallsInOrder engine breaks 5000 [] actions d := by
  intro engine breaks config actions d calls
  have goesOn : ∀ a ∈ actions, a.isShutdown = false := by simp [actions, Action.isShutdown]
  have inOrder : CallsInOrder engine breaks 5000 [] actions d :=
    accepted_requests_are_called_in_order engine breaks 5000 [] actions goesOn
  exact ⟨by decide +kernel, by decide +kernel, by decide +kernel, inOrder⟩

end Delivery

end TunnelControl
