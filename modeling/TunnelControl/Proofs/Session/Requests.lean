/-
  TunnelControl.Proofs.Session.Requests
  ─────────────────────────────────────
  **REQUESTS ARE HANDLED IN THE ORDER THEY ARE MADE.**

  A request that passes the check of its argument waits in the session queue
  until it is handled and answered.  The queue is conserved: what was put into
  it has been handled or still waits, in the same order.

    • `submittedBy`, `waiting`, `answered` — requests made, waiting, answered,
    • `act_frame`                          — what a step in the background leaves alone,
    • `Way`, `act_way`                     — the ways of a step, seen by the queues,
    • `standing`, `act_standing`           — what only handled messages change,
    • `act_requests`, `run_requests`       — the queue is conserved.
-/
import TunnelControl.Proofs.Session.Polling

namespace TunnelControl

/-- The request in a message. -/
def Message.request? : Message → Option Command
  | .command r => some r
  | _ => none

namespace Coordinator

/-! ## §1. Requests and their answers. -/

/-- The request that a step puts before the session: it has passed the check
of its argument. -/
def submittedBy : Action → Option Command
  | .request r => r.prepare.toOption
  | _ => none

/-- The requests that wait to be handled. -/
def waiting (c : Coordinator) : List Command := c.inbox.filterMap Message.request?

/-- The request that a step handles, with its answer. -/
def answeredBy (a : Action) (c : Coordinator) :
    Option (Command × Except RequestError Accepted) :=
  match a, c.inbox with
  | .handleNext, .command command :: _ => c.handleNext.1.map fun reply => (command, reply)
  | _, _ => none

/-- The requests that a run handles, in order, with their answers. -/
def answered : List Action → Coordinator → List (Command × Except RequestError Accepted)
  | [], _ => []
  | a :: actions, c => (c.answeredBy a).toList ++ answered actions (c.act a)

theorem handleNext_cons {c : Coordinator} {m : Message} {rest : List Message}
    (next : c.inbox = m :: rest) : c.act .handleNext = ({ c with inbox := rest }.handle m).2 := by
  simp only [act, handleNext, next]

theorem handleNext_nil {c : Coordinator} (next : c.inbox = []) : c.act .handleNext = c := by
  simp only [act, handleNext, next]

/-- A step that handles no message answers no request. -/
theorem answeredBy_eq_none {a : Action} (h : a ≠ .handleNext) (c : Coordinator) :
    c.answeredBy a = none := by
  unfold answeredBy
  split
  next => exact absurd rfl h
  next => rfl

/-- The answer to the request at the head of the queue. -/
theorem answeredBy_command {c : Coordinator} {command : Command} {rest : List Message}
    (next : c.inbox = .command command :: rest) :
    c.answeredBy .handleNext
      = some (command, ({ c with inbox := rest }.onCommand command).1) := by
  simp only [answeredBy, handleNext, next]
  rfl

/-- A message that is no request is not answered. -/
theorem answeredBy_other {c : Coordinator} {m : Message} {rest : List Message}
    (next : c.inbox = m :: rest) (other : m.request? = none) :
    c.answeredBy .handleNext = none := by
  unfold answeredBy
  split
  next command rest' next' =>
    rw [next'] at next
    injection next with e
    subst e
    cases other
  next => rfl

/-! ## §2. What a step leaves alone. -/

theorem Handling.inbox_eq {c c' : Coordinator} (step : Handling c c') : c'.inbox = c.inbox := by
  cases step <;> rfl

/-- A step in the background: it handles no message, calls nobody and does not
end the work. -/
def Action.isAside : Action → Bool
  | .handleNext => false
  | .callNext _ => false
  | .endWorker => false
  | .shutdown => false
  | _ => true

/-- A session that sends a message may get it at the end of its queue. -/
theorem send_eq (m : Message) (c : Coordinator) :
    c.send m = { c with inbox := c.inbox ++ if c.stopped then [] else [m] } := by
  unfold send
  split
  next => rw [List.append_nil]
  next => rfl

/-- What a step leaves of a session whose loops and pulls move on, and whose
queue gets some messages. -/
structure Aside (sent : List Message) (c c' : Coordinator) : Prop where
  /-- Only these parts change. -/
  eq : c' = { c with
    clock := c'.clock
    loops := c'.loops
    pulls := c'.pulls
    started := c'.started
    inbox := c.inbox ++ sent
    handles := c'.handles }

/-- **A step in the background moves loops and pulls and may send a message; it
sends a request only if it makes one, and the work has not ended.** -/
theorem act_frame {a : Action} (aside : a.isAside = true) (c : Coordinator) :
    ∃ sent, Aside sent c (c.act a)
      ∧ sent.filterMap Message.request? = if c.stopped then [] else (submittedBy a).toList := by
  have sends : ∀ m, Aside (if c.stopped then [] else [m]) c (c.send m) := by
    intro m
    rw [send_eq]
    exact ⟨rfl⟩
  have none : Aside [] c c := ⟨by rw [List.append_nil]⟩
  cases a with
  | callback cb =>
      refine ⟨_, sends (.callback cb), ?_⟩
      split
      next => rfl
      next => rfl
  | request r =>
      show ∃ sent, Aside sent c (c.submit r).2 ∧ sent.filterMap Message.request?
        = if c.stopped then [] else r.prepare.toOption.toList
      unfold submit
      cases r.prepare with
      | error cause => exact ⟨[], none, by simp [Except.toOption]⟩
      | ok command =>
          cases running : c.stopped with
          | true => exact ⟨[], none, rfl⟩
          | false =>
              have sent := sends (.command command)
              rw [running] at sent
              exact ⟨_, sent, rfl⟩
  | handleNext => cases aside
  | beginTimed i =>
      refine ⟨[], ?_, by simp [submittedBy]⟩
      show Aside [] c (c.beginTimed i)
      unfold beginTimed
      split
      next => exact none
      next =>
        split
        next => exact ⟨by rw [List.append_nil]; rfl⟩
        next => exact none
  | beginRefresh i =>
      refine ⟨[], ?_, by simp [submittedBy]⟩
      show Aside [] c (c.beginRefresh i)
      unfold beginRefresh
      split
      next => exact none
      next =>
        split
        next =>
          split
          next => exact ⟨by rw [List.append_nil]; rfl⟩
          next => exact ⟨by rw [List.append_nil]⟩
        next => exact none
  | endPull i s =>
      refine ⟨[], ?_, by simp [submittedBy]⟩
      show Aside [] c (c.endPull i s)
      unfold endPull
      split
      next => exact none
      next =>
        split
        next =>
          split
          next => exact ⟨by rw [List.append_nil]; rfl⟩
          next => exact ⟨by rw [List.append_nil]⟩
        next => exact none
  | report i =>
      show ∃ sent, Aside sent c (c.report i) ∧ _
      unfold report
      split
      next => exact ⟨[], none, by simp [submittedBy]⟩
      next p _ =>
        split
        next snapshot _ =>
          refine ⟨if c.stopped then [] else [.pulled p.number p.epoch snapshot], ?_, ?_⟩
          · rw [send_eq]
            exact ⟨rfl⟩
          · split
            next => rfl
            next => rfl
        next => exact ⟨[], none, by simp [submittedBy]⟩
  | callNext o => cases aside
  | advance ms => exact ⟨[], ⟨by rw [List.append_nil]; rfl⟩, by simp [submittedBy]⟩
  | endWorker => cases aside
  | shutdown => cases aside
  | dropHandle => exact ⟨[], ⟨by rw [List.append_nil]; rfl⟩, by simp [submittedBy]⟩

/-- A call moves from its queue to the record, and nothing else changes. -/
theorem callNext_eq (o : CallOutcome) (c : Coordinator) :
    c.callNext o
      = { c with
          outbox := c.outbox.tail
          attempted := c.attempted ++ c.outbox.head?.toList } := by
  unfold callNext
  split
  next empty =>
    simp only [empty, List.tail_nil, List.head?_nil, Option.toList_none, List.append_nil]
    rw [← empty]
  next e rest next => simp [next]

/-- The ways of a step, as the queues of a session see it. -/
inductive Way (c : Coordinator) : Action → Coordinator → Prop where
  /-- It is one in the background. -/
  | aside {a : Action} {c' : Coordinator} (sent : List Message) (frame : Aside sent c c')
      (other : a ≠ .handleNext)
      (requests : sent.filterMap Message.request?
        = if c.stopped then [] else (submittedBy a).toList) : Way c a c'
  /-- No message waits. -/
  | idle (empty : c.inbox = []) : Way c .handleNext c
  /-- The message at the head of the queue is handled. -/
  | handled (m : Message) (rest : List Message) (next : c.inbox = m :: rest) :
      Way c .handleNext ({ c with inbox := rest }.handle m).2
  /-- The call at the head of its queue is attempted, if one waits. -/
  | called (o : CallOutcome) : Way c (.callNext o)
      { c with
        outbox := c.outbox.tail
        attempted := c.attempted ++ c.outbox.head?.toList }
  /-- The worker ends. -/
  | workerEnds : Way c .endWorker c.endWorker
  /-- The work is ended. -/
  | shut : Way c .shutdown c.shutdown

/-- **Every step goes one of these ways.** -/
theorem act_way (a : Action) (c : Coordinator) : Way c a (c.act a) := by
  cases aside : a.isAside with
  | true =>
      obtain ⟨sent, frame, requests⟩ := act_frame aside c
      refine .aside sent frame ?_ requests
      rintro rfl
      cases aside
  | false =>
      cases a with
      | handleNext =>
          cases next : c.inbox with
          | nil =>
              rw [handleNext_nil next]
              exact .idle next
          | cons m rest =>
              rw [handleNext_cons next]
              exact .handled m rest next
      | callNext o =>
          show Way c (.callNext o) (c.callNext o)
          rw [callNext_eq]
          exact .called o
      | endWorker => exact .workerEnds
      | shutdown => exact .shut
      | _ => cases aside

/-- A step of another kind handles no message. -/
theorem handledBy_eq_none {a : Action} (other : a ≠ .handleNext) (c : Coordinator) :
    c.handledBy a = none := by
  cases a with
  | handleNext => exact absurd rfl other
  | _ => rfl

/-- The state, the views, the config and the attempt of a session. -/
def standing (c : Coordinator) :
    Channel ConnectionState × Views × Option ValidatedConfig × Provisioner :=
  (c.state, c.views, c.active, c.provisioner)

/-- **State, views, config and attempt change only when a message is handled**,
and then by that message alone. -/
theorem act_standing (a : Action) (c : Coordinator) :
    (c.act a).standing = match c.handledBy a with
      | some m => ({ c with inbox := c.inbox.tail }.handle m).2.standing
      | none => c.standing := by
  have way := act_way a c
  generalize c.act a = c' at way ⊢
  cases way with
  | aside sent frame other =>
      rw [handledBy_eq_none other, frame.eq]
      rfl
  | idle empty => simp [handledBy, empty]
  | handled m rest next => simp [handledBy, next]
  | called o => rfl
  | workerEnds => rfl
  | shut =>
      show c.shutdown.standing = c.standing
      unfold shutdown
      split
      next => rfl
      next => rfl

/-- Only shutdown ends the work. -/
theorem act_stopped {a : Action} (goesOn : a ≠ .shutdown) (c : Coordinator) :
    (c.act a).stopped = c.stopped := by
  have way := act_way a c
  generalize c.act a = c' at way ⊢
  cases way with
  | aside sent frame => rw [frame.eq]
  | idle => rfl
  | handled m rest => exact (handle_handling m _).stopped_eq
  | called o => rfl
  | workerEnds => rfl
  | shut => exact absurd rfl goesOn

/-! ## §3. The queue is conserved. -/

/-- **What waits and what is made are what is handled and what waits then.** -/
theorem act_requests {c : Coordinator} (running : c.stopped = false) {a : Action}
    (goesOn : a ≠ .shutdown) :
    c.waiting ++ (submittedBy a).toList
      = (c.answeredBy a).toList.map Prod.fst ++ (c.act a).waiting := by
  have way := act_way a c
  generalize c.act a = c' at way ⊢
  cases way with
  | aside sent frame other requests =>
      rw [answeredBy_eq_none other, frame.eq]
      show c.waiting ++ (submittedBy a).toList = (c.inbox ++ sent).filterMap Message.request?
      rw [List.filterMap_append, requests, running]
      rfl
  | idle empty => simp [answeredBy, empty, submittedBy]
  | handled m rest next =>
      show c.waiting ++ [] = _
      rw [List.append_nil, waiting, waiting, (handle_handling m _).inbox_eq, next]
      cases m with
      | command command =>
          rw [answeredBy_command next]
          rfl
      | callback cb =>
          rw [answeredBy_other next rfl]
          rfl
      | pulled number epoch snapshot =>
          rw [answeredBy_other next rfl]
          rfl
  | called o => exact List.append_nil _
  | workerEnds => exact List.append_nil _
  | shut => exact absurd rfl goesOn

/-- **The requests that a run makes are those it handles, in the same order,
and those that wait.** -/
theorem run_requests {c : Coordinator} (running : c.stopped = false) {actions : List Action}
    (goesOn : Action.shutdown ∉ actions) :
    c.waiting ++ actions.filterMap submittedBy
      = (c.answered actions).map Prod.fst ++ (c.run actions).waiting := by
  induction actions generalizing c with
  | nil => exact List.append_nil _
  | cons a actions ih =>
      rw [List.mem_cons, not_or] at goesOn
      have step := act_requests running (Ne.symm goesOn.1)
      have next := (act_stopped (Ne.symm goesOn.1) c).trans running
      have made : (a :: actions).filterMap submittedBy
          = (submittedBy a).toList ++ actions.filterMap submittedBy := by
        cases h : submittedBy a with
        | none => simp [h]
        | some command => simp [h]
      rw [made, ← List.append_assoc, step, List.append_assoc, ih next goesOn.2, answered,
        List.map_append, List.append_assoc]
      rfl

end Coordinator

end TunnelControl
