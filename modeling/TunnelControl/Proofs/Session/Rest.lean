/-
  TunnelControl.Proofs.Session.Rest
  ─────────────────────────────────
  **A SESSION AT REST STAYS AS IT IS.**

  When the work has ended, nothing waits, and every loop was told to end, then
  no step changes what observers see, begins a pull or calls the engine.  What
  is left to happen is that time passes, that pulls of the time before end
  without a result, and that handles are given up.

    • `Emptied`            — no call waits when the worker has ended,
    • `asking_of_told`     — no pull begins when every loop was told to end,
    • `AtRest`             — what holds of a session at rest,
    • `Faded`              — all that can still change,
    • `AtRest.act`         — one step,
    • `AtRest.run`         — a whole run,
    • `complaint_of_stopped`, `submit_of_stopped` — what requests get.
-/
import TunnelControl.Proofs.Session.Delivery
import TunnelControl.Proofs.Session.PollLoops
import TunnelControl.Proofs.Session.Turns
import TunnelControl.Session.Closing

namespace TunnelControl.Coordinator

/-! ## §1. On the way. -/

/-- When the worker has ended, no call waits. -/
def Emptied (c : Coordinator) : Prop := c.workerEnded = true → c.outbox = []

theorem queueable_of_ended {c : Coordinator} (ended : c.workerEnded = true) (e : EngineCall) :
    c.queueable e = [] := if_pos ended

theorem callsOf_of_ended {c : Coordinator} (ended : c.workerEnded = true) (m : Message) :
    c.callsOf m = [] := by
  unfold callsOf
  split
  next =>
    split
    next => rfl
    next => exact queueable_of_ended ended _
  next => exact queueable_of_ended ended _
  next => exact queueable_of_ended ended _
  next => exact queueable_of_ended ended _
  next => rfl
  next => rfl
  next => rfl

theorem Emptied.act {c : Coordinator} (h : Emptied c) (a : Action) : Emptied (c.act a) := by
  have way := act_way a c
  generalize c.act a = c' at way ⊢
  cases way with
  | aside sent frame =>
      rw [frame.eq]
      exact h
  | idle => exact h
  | handled m rest =>
      intro ended
      have before := (handle_handling m { c with inbox := rest }).workerEnded_eq.symm.trans ended
      rw [(handle_calls m _).1, callsOf_of_ended before, List.append_nil]
      exact h before
  | called o =>
      intro ended
      show c.outbox.tail = []
      rw [h ended]
      rfl
  | workerEnds => exact fun _ => rfl
  | shut =>
      unfold shutdown
      split
      next => exact h
      next => exact fun _ => rfl

theorem loopCancelled_of_told {c : Coordinator} (told : ∀ l ∈ c.loops, l.cancelled = true)
    (i : Nat) : c.loopCancelled i = true := by
  unfold loopCancelled
  split
  next l hl => exact told l (List.mem_of_getElem? hl)
  next => rfl

/-- A message makes nobody ask the engine for a pull: one that is requested has
not begun yet. -/
theorem Handling.asking {c c' : Coordinator} (step : Handling c c') {number : Nat}
    (h : c'.Asking number) : c.Asking number := by
  cases step with
  | pulling i poll =>
      obtain ⟨p, listed, same, asked⟩ := h
      rcases List.mem_append.mp listed with old | new
      · exact ⟨p, old, same, asked⟩
      · rw [List.mem_singleton] at new
        rw [new] at asked
        cases asked
  | _ => exact h

/-- **When every loop was told to end, the engine is asked for no pull.** -/
theorem asking_of_told {c : Coordinator} (told : ∀ l ∈ c.loops, l.cancelled = true) (a : Action)
    {number : Nat} (h : (c.act a).Asking number) : c.Asking number := by
  have step := act_change a c
  generalize c.act a = c' at step h
  cases step with
  | aside => exact h
  | sent => exact h
  | handled m rest =>
      have before := (handle_handling m { c with inbox := rest }).asking h
      exact before
  | begun i l loop live =>
      rw [told l (List.mem_of_getElem? loop)] at live
      cases live
  | ended i p => exact h.of_closePull
  | staged i p stage pull live =>
      rw [loopCancelled_of_told told] at live
      cases live
  | reported i p =>
      have before : (c.closePull i p).Asking number := h
      exact before.of_closePull
  | stopped running =>
      simp only [shutdown, running, Bool.false_eq_true, if_false] at h
      exact h

/-! ## §2. At rest. -/

/-- Nothing waits, and nothing is left that could put anything in a queue. -/
structure AtRest (c : Coordinator) : Prop where
  /-- The work has ended. -/
  stopped : c.stopped = true
  /-- No message waits. -/
  inbox : c.inbox = []
  /-- No call waits. -/
  outbox : c.outbox = []
  /-- Nor does the worker. -/
  worker : c.workerEnded = true
  /-- Every loop was told to end. -/
  loops : ∀ l ∈ c.loops, l.cancelled = true

/-- What can still change in a session at rest. -/
structure Faded (c c' : Coordinator) : Prop where
  /-- Only these parts change. -/
  eq : c' = { c with
    clock := c'.clock
    loops := c'.loops
    pulls := c'.pulls
    handles := c'.handles }
  /-- No loop starts, and none is told anything. -/
  loops : flags c'.loops = flags c.loops
  /-- Pulls end; none begins or comes further. -/
  pulls : c'.pulls.Sublist c.pulls

theorem Faded.refl (c : Coordinator) : Faded c c := ⟨rfl, rfl, List.Sublist.refl _⟩

theorem Faded.trans {c c' c'' : Coordinator} (h : Faded c c') (h' : Faded c' c'') :
    Faded c c'' where
  eq := by
    rw [h'.eq, h.eq]
  loops := h'.loops.trans h.loops
  pulls := h'.pulls.trans h.pulls

theorem forall_cancelled_iff (loops : List PollLoop) :
    (∀ l ∈ loops, l.cancelled = true) ↔ ∀ b ∈ flags loops, b = true := by
  simp [flags]

theorem AtRest.of_faded {c c' : Coordinator} (h : AtRest c) (fade : Faded c c') : AtRest c' where
  stopped := by
    rw [fade.eq]
    exact h.stopped
  inbox := by
    rw [fade.eq]
    exact h.inbox
  outbox := by
    rw [fade.eq]
    exact h.outbox
  worker := by
    rw [fade.eq]
    exact h.worker
  loops := by
    rw [forall_cancelled_iff, fade.loops, ← forall_cancelled_iff]
    exact h.loops

/-! ## §3. Steps and runs. -/

/-- A step that waits for something in a queue does nothing. -/
theorem AtRest.act_eq {c : Coordinator} (h : AtRest c) {a : Action} (waits : a.isAside = false) :
    c.act a = c := by
  cases a with
  | handleNext => exact handleNext_nil h.inbox
  | callNext o => simp [Coordinator.act, callNext, h.outbox]
  | endWorker =>
      show { c with workerEnded := true, outbox := [] } = c
      rw [← h.worker, ← h.outbox]
  | shutdown => simp [Coordinator.act, shutdown, h.stopped]
  | _ => cases waits

/-- **At rest a step lets time pass, ends a pull or gives up a handle**, and
does nothing else. -/
theorem AtRest.act {c : Coordinator} (h : AtRest c) (a : Action) : Faded c (c.act a) := by
  cases aside : a.isAside with
  | false =>
      rw [h.act_eq aside]
      exact .refl c
  | true =>
      obtain ⟨sent, frame, -⟩ := act_frame aside c
      have change := act_change a c
      generalize c.act a = c' at frame change ⊢
      have same := frame.eq
      have still : ¬ c.stopped = false := by simp [h.stopped]
      cases change with
      | aside clock outbox attempted workerEnded handles =>
          have calls : outbox = c.outbox := congrArg Coordinator.outbox same
          have past : attempted = c.attempted := congrArg Coordinator.attempted same
          have worker : workerEnded = c.workerEnded := congrArg Coordinator.workerEnded same
          subst calls past worker
          exact ⟨rfl, rfl, List.Sublist.refl _⟩
      | ended i p =>
          exact ⟨rfl, flags_closePull i p c, List.eraseIdx_sublist c.pulls i⟩
      | begun i l loop live =>
          -- the loop was told to end
          rw [h.loops l (List.mem_of_getElem? loop)] at live
          cases live
      | staged i p stage pull live =>
          rw [loopCancelled_of_told h.loops] at live
          cases live
      | handled m rest _ next =>
          rw [h.inbox] at next
          cases next
      | sent m _ running => exact absurd running still
      | reported i p snapshot _ running => exact absurd running still
      | stopped running => exact absurd running still

/-- **A session at rest stays at rest**, and nothing else happens in any run. -/
theorem AtRest.run {c : Coordinator} (h : AtRest c) (actions : List Action) :
    AtRest (c.run actions) ∧ Faded c (c.run actions) :=
  run_induction (P := fun c' => AtRest c' ∧ Faded c c')
    (fun _ a ⟨rest, fade⟩ =>
      have further := rest.act a
      ⟨rest.of_faded further, fade.trans further⟩)
    ⟨h, .refl c⟩ actions

/-! ## §4. Requests. -/

/-- When the work has ended, a request is refused for its argument or for the
end, and nothing changes. -/
theorem submit_of_stopped {c : Coordinator} (stopped : c.stopped = true) (r : Request) :
    c.submit r = (match r.prepare with
      | .error cause => .error (.rejected cause)
      | .ok _ => .error .shutDown, c) := by
  unfold submit
  cases r.prepare with
  | error cause => rfl
  | ok command => simp [stopped]

/-- A caller who does not disconnect is told why a request is refused. -/
theorem complaint_of_submit_error {c : Coordinator} {r : Request} (other : r ≠ .disconnect)
    {e : RequestError} (refused : (c.submit r).1 = .error e) : c.complaint r = some e := by
  unfold complaint
  cases r with
  | disconnect => exact absurd rfl other
  | _ => simp only [refused]

/-- What a caller is told at once when the work has ended. -/
theorem complaint_of_stopped {c : Coordinator} (stopped : c.stopped = true) {r : Request}
    (other : r ≠ .disconnect) :
    c.complaint r = match r.prepare with
      | .error cause => some (.rejected cause)
      | .ok _ => some .shutDown := by
  have refused := congrArg Prod.fst (submit_of_stopped stopped r)
  cases valid : r.prepare with
  | error cause =>
      rw [valid] at refused
      exact complaint_of_submit_error other refused
  | ok command =>
      rw [valid] at refused
      exact complaint_of_submit_error other refused

end TunnelControl.Coordinator
