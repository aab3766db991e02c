/-
  TunnelControl.Proofs.Session.Waiting
  ────────────────────────────────────
  **A MESSAGE THAT WAITS DOES NOTHING.**

  No step looks into the queue but the one that handles its first message, and
  that looks at this message alone.  So two sessions that differ in what waits
  go the same way until they handle different messages.

    • `withInbox`, `beside`                  — a session with another queue, and
                                               another number of handles,
    • `handle_beside`, `act_beside`          — a step reads neither of them,
    • `handle_withInbox`, `act_withInbox`    — so it does not read what waits,
    • `WaitsBehind`                          — a session with one more message,
    • `WaitsBehind.act`, `WaitsBehind.handled` — the two go the same way.
-/
import TunnelControl.Proofs.Session.Requests
import TunnelControl.Proofs.Session.PullPeriod

namespace TunnelControl.Coordinator

/-! ## §1. Another queue. -/

/-- The session with another queue of messages. -/
def withInbox (q : List Message) (c : Coordinator) : Coordinator := { c with inbox := q }

@[simp] theorem withInbox_inbox (q : List Message) (c : Coordinator) :
    (c.withInbox q).inbox = q := rfl

@[simp] theorem withInbox_withInbox (q q' : List Message) (c : Coordinator) :
    (c.withInbox q).withInbox q' = c.withInbox q' := rfl

theorem withInbox_self (c : Coordinator) : c.withInbox c.inbox = c := rfl

/-- The session with another queue of messages and another number of handles. -/
def beside (q : List Message) (n : Nat) (c : Coordinator) : Coordinator :=
  { c with inbox := q, handles := n }

theorem beside_self (c : Coordinator) : c.beside c.inbox c.handles = c := rfl

section

variable (q : List Message) (n : Nat) (c : Coordinator)

@[simp] theorem beside_clock : (c.beside q n).clock = c.clock := rfl

@[simp] theorem beside_state : (c.beside q n).state = c.state := rfl

@[simp] theorem beside_epoch : (c.beside q n).epoch = c.epoch := rfl

@[simp] theorem beside_loops : (c.beside q n).loops = c.loops := rfl

@[simp] theorem beside_pulls : (c.beside q n).pulls = c.pulls := rfl

@[simp] theorem beside_loopCancelled (i : Nat) :
    (c.beside q n).loopCancelled i = c.loopCancelled i := rfl

end

/-! ## §2. Steps read neither the queue nor the number of handles. -/

theorem move_beside (next : ConnectionState) (q : List Message) (n : Nat) (c : Coordinator) :
    (c.beside q n).move next = (c.move next).beside q n := by
  cases was : c.state.value.isConnected <;> cases now : next.isConnected <;>
    simp [move, beside, was, now, stopPolling, startPolling, publish]

theorem onPeerUpdate_beside (body : String) (q : List Message) (n : Nat) (c : Coordinator) :
    (c.beside q n).onPeerUpdate body = (c.onPeerUpdate body).beside q n := by
  by_cases ended : c.state.value = .terminated
  · simp [onPeerUpdate, ended]
  · simp only [onPeerUpdate, beside_state, ended, if_false]
    cases Wire.Peer.decodeList body with
    | ok ps => rfl
    | error e => rfl

theorem onCallback_beside (cb : Callback) (q : List Message) (n : Nat) (c : Coordinator) :
    (c.beside q n).onCallback cb = (c.onCallback cb).beside q n := by
  cases cb with
  | peerUpdate body => exact onPeerUpdate_beside body q n c
  | terminated => rfl
  | registered => exact move_beside .registered q n c
  | connected => exact move_beside .connected q n c
  | authError code message => exact move_beside (.authError code message) q n c

theorem call_beside (e : EngineCall) (q : List Message) (n : Nat) (c : Coordinator) :
    (c.beside q n).call e = ((c.call e).1, (c.call e).2.beside q n) := by
  cases ended : c.workerEnded <;> simp [call, beside, ended]

theorem onCommand_beside (command : Command) (q : List Message) (n : Nat) (c : Coordinator) :
    (c.beside q n).onCommand command
      = ((c.onCommand command).1, (c.onCommand command).2.beside q n) := by
  cases command with
  | connect config =>
      show (c.beside q n).onConnect config
        = ((c.onConnect config).1, (c.onConnect config).2.beside q n)
      cases busy : c.state.value.isConnected <;> cases ended : c.workerEnded <;>
        simp [onConnect, call, beside, busy, ended]
  | disconnect => exact call_beside _ q n c
  | switchOrg org => exact call_beside _ q n c
  | updateSettings body => exact call_beside _ q n c
  | refresh =>
      show (c.beside q n).onRefresh = (c.onRefresh.1, c.onRefresh.2.beside q n)
      cases poll : c.poll <;> simp [onRefresh, startPull, beside, poll]

theorem onPulled_beside (epoch : Nat) (snapshot : Option Snapshot) (q : List Message) (n : Nat)
    (c : Coordinator) :
    (c.beside q n).onPulled epoch snapshot = (c.onPulled epoch snapshot).beside q n := by
  by_cases stale : epoch ≠ c.epoch ∨ !c.state.value.isConnected
  · simp only [onPulled, beside_epoch, beside_state, stale, if_true]
  · simp only [onPulled, beside_epoch, beside_state, stale, if_false]
    cases snapshot with
    | none => rfl
    | some s => rfl

/-- **A message is handled without a look at those that wait**, or at the
handles. -/
theorem handle_beside (m : Message) (q : List Message) (n : Nat) (c : Coordinator) :
    (c.beside q n).handle m = ((c.handle m).1, (c.handle m).2.beside q n) := by
  cases m with
  | callback cb => simp only [handle, onCallback_beside]
  | command command => simp only [handle, onCommand_beside]
  | pulled number epoch snapshot => simp only [handle, onPulled_beside]

theorem send_beside (m : Message) (q : List Message) (n : Nat) (c : Coordinator) :
    (c.beside q n).send m = (c.send m).beside (q ++ if c.stopped then [] else [m]) n := by
  rw [send_eq, send_eq]
  rfl

theorem submit_beside (r : Request) (c : Coordinator) :
    ∃ sent, ∀ q n, ((c.beside q n).submit r).2 = (c.submit r).2.beside (q ++ sent) n := by
  cases valid : r.prepare with
  | error cause => exact ⟨[], fun q n => by simp only [submit, valid, List.append_nil]⟩
  | ok command =>
      cases stopped : c.stopped with
      | true => exact ⟨[], fun q n => by simp [submit, valid, beside, stopped]⟩
      | false =>
          refine ⟨[.command command], fun q n => ?_⟩
          have sends := send_beside (.command command) q n c
          simpa [submit, valid, beside, stopped] using sends

theorem beginTimed_beside (i : Nat) (q : List Message) (n : Nat) (c : Coordinator) :
    (c.beside q n).beginTimed i = (c.beginTimed i).beside q n := by
  simp only [beginTimed, beside_loops, beside_clock]
  cases c.loops[i]? with
  | none => rfl
  | some l => cases due : isDue l c.clock <;> simp only [due] <;> rfl

theorem beginRefresh_beside (i : Nat) (q : List Message) (n : Nat) (c : Coordinator) :
    (c.beside q n).beginRefresh i = (c.beginRefresh i).beside q n := by
  simp only [beginRefresh, beside_pulls, beside_loopCancelled]
  cases c.pulls[i]? with
  | none => rfl
  | some p =>
      cases stage : p.stage with
      | waiting => cases told : c.loopCancelled p.loop <;> simp only [stage, told] <;> rfl
      | asked => simp only [stage]
      | answered s => simp only [stage]

theorem endPull_beside (i : Nat) (s : Option Snapshot) (q : List Message) (n : Nat)
    (c : Coordinator) : (c.beside q n).endPull i s = (c.endPull i s).beside q n := by
  simp only [endPull, beside_pulls, beside_loopCancelled]
  cases c.pulls[i]? with
  | none => rfl
  | some p =>
      cases stage : p.stage with
      | waiting => simp only [stage]
      | asked => cases told : c.loopCancelled p.loop <;> simp only [stage, told] <;> rfl
      | answered s' => simp only [stage]

theorem report_beside (i : Nat) (c : Coordinator) :
    ∃ sent, ∀ q n, (c.beside q n).report i = (c.report i).beside (q ++ sent) n := by
  simp only [report, beside_pulls]
  cases c.pulls[i]? with
  | none => exact ⟨[], fun q n => by rw [List.append_nil]⟩
  | some p =>
      cases stage : p.stage with
      | waiting => exact ⟨[], fun q n => by simp only [stage, List.append_nil]⟩
      | asked => exact ⟨[], fun q n => by simp only [stage, List.append_nil]⟩
      | answered s =>
          refine ⟨if c.stopped then [] else [.pulled p.number p.epoch s], fun q n => ?_⟩
          simp only [stage]
          exact send_beside (.pulled p.number p.epoch s) q n (c.closePull i p)

/-- **A step in the background does the same whatever waits and whoever has a
handle**, and what it sends goes behind. -/
theorem act_beside {a : Action} (aside : a.isAside = true) (keeps : a ≠ .dropHandle)
    (c : Coordinator) :
    ∃ sent, ∀ q n, (c.beside q n).act a = (c.act a).beside (q ++ sent) n := by
  -- a step that sends nothing
  have quiet (same : ∀ q n, (c.beside q n).act a = (c.act a).beside q n) :
      ∃ sent, ∀ q n, (c.beside q n).act a = (c.act a).beside (q ++ sent) n := by
    refine ⟨[], fun q n => ?_⟩
    rw [same, List.append_nil]
  cases a with
  | callback cb => exact ⟨_, fun q n => send_beside (.callback cb) q n c⟩
  | request r => exact submit_beside r c
  | beginTimed i => exact quiet fun q n => beginTimed_beside i q n c
  | beginRefresh i => exact quiet fun q n => beginRefresh_beside i q n c
  | endPull i s => exact quiet fun q n => endPull_beside i s q n c
  | report i => exact report_beside i c
  | advance ms => exact quiet fun q n => rfl
  | dropHandle => exact absurd rfl keeps
  | _ => cases aside

theorem Handling.handles_eq {c c' : Coordinator} (step : Handling c c') :
    c'.handles = c.handles := by
  cases step <;> rfl

/-- A message is handled without a look at those that wait. -/
theorem handle_withInbox (m : Message) (q : List Message) (c : Coordinator) :
    ((c.withInbox q).handle m).2 = (c.handle m).2.withInbox q := by
  refine (congrArg Prod.snd (handle_beside m q c.handles c)).trans ?_
  show (c.handle m).2.beside q c.handles = (c.handle m).2.beside q (c.handle m).2.handles
  rw [(handle_handling m c).handles_eq]

/-- A step in the background does the same whatever waits. -/
theorem act_withInbox {a : Action} (aside : a.isAside = true) (c : Coordinator) :
    ∃ sent, ∀ q, (c.withInbox q).act a = (c.act a).withInbox (q ++ sent) := by
  by_cases keeps : a = .dropHandle
  · subst keeps
    exact ⟨[], fun q => by rw [List.append_nil]; rfl⟩
  · obtain ⟨sent, same⟩ := act_beside aside keeps c
    have kept := congrArg Coordinator.handles (same c.inbox c.handles)
    rw [beside_self] at kept
    refine ⟨sent, fun q => (same q c.handles).trans ?_⟩
    show (c.act a).beside (q ++ sent) c.handles = (c.act a).beside (q ++ sent) (c.act a).handles
    rw [kept]
    rfl

/-! ## §3. One more message. -/

/-- The second session is the first with one more message, which waits behind
some that both have. -/
def WaitsBehind (front : List Message) (m : Message) (c c' : Coordinator) : Prop :=
  ∃ later, c.inbox = front ++ later ∧ c' = c.withInbox (front ++ m :: later)

variable {front : List Message} {m : Message} {c c' : Coordinator}

/-- A message that is sent waits behind all others. -/
theorem waitsBehind_send (running : c.stopped = false) (m : Message) :
    WaitsBehind c.inbox m c (c.send m) := by
  refine ⟨[], (List.append_nil _).symm, ?_⟩
  simp [send, running, withInbox]

/-- **Both sessions take the same step beside the queue.** -/
theorem WaitsBehind.act (h : WaitsBehind front m c c') {a : Action} (other : a ≠ .handleNext)
    (goesOn : a ≠ .shutdown) : WaitsBehind front m (c.act a) (c'.act a) := by
  obtain ⟨later, queue, rfl⟩ := h
  cases aside : a.isAside with
  | true =>
      obtain ⟨sent, same⟩ := act_withInbox aside c
      refine ⟨later ++ sent, ?_, ?_⟩
      · have behind := congrArg Coordinator.inbox (same c.inbox)
        rw [withInbox_self, withInbox_inbox] at behind
        rw [behind, queue, List.append_assoc]
      · rw [same, List.append_assoc, List.cons_append]
  | false =>
      cases a with
      | handleNext => exact absurd rfl other
      | shutdown => exact absurd rfl goesOn
      | callNext o =>
          refine ⟨later, ?_, ?_⟩
          · show (c.callNext o).inbox = _
            rw [callNext_eq, queue]
          · show (c.withInbox _).callNext o = (c.callNext o).withInbox _
            rw [callNext_eq, callNext_eq]
            rfl
      | endWorker => exact ⟨later, queue, rfl⟩
      | _ => cases aside

/-- **Both sessions handle the same message** while one waits in front. -/
theorem WaitsBehind.handled {x : Message} (h : WaitsBehind (x :: front) m c c') :
    WaitsBehind front m (c.act .handleNext) (c'.act .handleNext) := by
  obtain ⟨later, queue, rfl⟩ := h
  have first : c.act .handleNext = ((c.handle x).2).withInbox (front ++ later) := by
    rw [handleNext_cons queue]
    exact handle_withInbox x (front ++ later) c
  have second : (c.withInbox (x :: front ++ m :: later)).act .handleNext
      = ((c.handle x).2).withInbox (front ++ m :: later) := by
    have next : (c.withInbox (x :: front ++ m :: later)).inbox = x :: (front ++ m :: later) := rfl
    rw [handleNext_cons next]
    exact handle_withInbox x (front ++ m :: later) c
  refine ⟨later, ?_, ?_⟩
  · rw [first, withInbox_inbox]
  · rw [first, second, withInbox_withInbox]

/-- The second session handles what waits in front, and then the message. -/
theorem WaitsBehind.handledBy (h : WaitsBehind front m c c') :
    c'.handledBy .handleNext = (front ++ [m]).head? := by
  obtain ⟨later, -, rfl⟩ := h
  cases front with
  | nil => rfl
  | cons x front => rfl

end TunnelControl.Coordinator
