/-
  TunnelControl.Proofs.Session.Owners
  ───────────────────────────────────
  **SHUTDOWN ALONE ENDS THE WORK OF A SESSION.**

  No step looks at the number of handles, so that giving them up changes
  nothing.  The task that handles messages holds the session, and with it the
  ways into both queues: neither is ever closed while that task goes on, and no
  view ends.  Only after shutdown the last handle takes the session along.

    • `act_withHandles`, `Closing.step_withHandles` — nothing reads the handles,
    • `Closing.EndsAsked`                — a task ends only when it was asked to,
    • `Owned.messages_never_closed`      — the task keeps its own queue open,
    • `Owned.Moves`, `Kept.step_moves`   — what one step can do,
    • `Kept.run_closing`                 — what a run does to the session,
    • `Owned.Over`, `Over.run`           — after shutdown and the last handle,
    • `Owned.shutdown_alone_ends_the_work`.
-/
import TunnelControl.Proofs.Session.Closing
import TunnelControl.Proofs.Session.Waiting
import TunnelControl.Session.Owners

namespace TunnelControl

/-! ## §1. No step reads the number of handles. -/

namespace Coordinator

theorem withHandles_stopped (n : Nat) (c : Coordinator) :
    (c.withHandles n).stopped = c.stopped := rfl

/-- A message is handled without a look at the handles. -/
theorem handle_withHandles (m : Message) (n : Nat) (c : Coordinator) :
    ((c.withHandles n).handle m).2 = (c.handle m).2.withHandles n := by
  refine (congrArg Prod.snd (handle_beside m c.inbox n c)).trans ?_
  show (c.handle m).2.beside c.inbox n = (c.handle m).2.beside (c.handle m).2.inbox n
  rw [(handle_handling m c).inbox_eq]

/-- **No step reads the number of handles.** -/
theorem act_withHandles {a : Action} (keeps : a ≠ .dropHandle) (n : Nat) (c : Coordinator) :
    (c.withHandles n).act a = (c.act a).withHandles n := by
  cases aside : a.isAside with
  | true =>
      obtain ⟨sent, same⟩ := act_beside aside keeps c
      have queue := congrArg Coordinator.inbox (same c.inbox c.handles)
      rw [beside_self] at queue
      refine (same c.inbox n).trans ?_
      show (c.act a).beside (c.inbox ++ sent) n = (c.act a).beside (c.act a).inbox n
      rw [queue]
      rfl
  | false =>
      cases a with
      | handleNext =>
          cases next : c.inbox with
          | nil => rw [handleNext_nil next, handleNext_nil (c := c.withHandles n) next]
          | cons m rest =>
              rw [handleNext_cons next, handleNext_cons (c := c.withHandles n) next]
              exact handle_withHandles m n { c with inbox := rest }
      | callNext o =>
          show (c.withHandles n).callNext o = (c.callNext o).withHandles n
          rw [callNext_eq, callNext_eq]
          rfl
      | endWorker => rfl
      | shutdown =>
          show (c.withHandles n).shutdown = c.shutdown.withHandles n
          unfold shutdown
          rw [withHandles_stopped]
          split <;> rfl
      | _ => cases aside

end Coordinator

/-! ## §2. Nor do the tasks. -/

namespace Closing

@[simp] theorem withHandles_asked (n : Nat) (k : Closing) :
    (k.withHandles n).asked = k.asked := rfl

@[simp] theorem withHandles_session (n : Nat) (k : Closing) :
    (k.withHandles n).session = k.session.withHandles n := rfl

@[simp] theorem withHandles_withHandles (m n : Nat) (k : Closing) :
    (k.withHandles m).withHandles n = k.withHandles n := rfl

theorem withHandles_self (k : Closing) : k.withHandles k.session.handles = k := rfl

theorem settle_withHandles (n : Nat) (k : Closing) :
    (k.withHandles n).settle = k.settle.withHandles n := by
  unfold settle
  rw [withHandles_asked]
  cases k.asked <;> rfl

theorem act_withHandles {a : Coordinator.Action} (other : a ≠ .dropHandle) (n : Nat)
    (k : Closing) : (k.withHandles n).act a = (k.act a).withHandles n := by
  have acts := Coordinator.act_withHandles other n k.session
  have whole : { k.withHandles n with session := (k.session.withHandles n).act a }
      = ({ k with session := k.session.act a } : Closing).withHandles n := by
    rw [acts]
    rfl
  cases a with
  | handleNext =>
      show (k.withHandles n).handleNext = k.handleNext.withHandles n
      unfold handleNext
      rw [withHandles_session, acts, apply_ite (withHandles n)]
      rfl
  | callNext o =>
      show (k.withHandles n).beginCall o = (k.beginCall o).withHandles n
      unfold beginCall
      rw [withHandles_session, acts, apply_ite (withHandles n)]
      rfl
  | endWorker =>
      show (if _ then _ else _) = withHandles n (if _ then _ else _)
      rw [withHandles_session, acts, apply_ite (withHandles n)]
      rfl
  | shutdown => rfl
  | _ => exact whole

/-- **The tasks do not read the number of handles.** -/
theorem step_withHandles {s : Step} (other : s ≠ .session .dropHandle) (n : Nat) (k : Closing) :
    (k.withHandles n).step s = (k.step s).withHandles n := by
  have moves : (k.withHandles n).move s = (k.move s).withHandles n := by
    cases s with
    | session a => exact act_withHandles (fun drops => other (congrArg _ drops)) n k
    | _ =>
        show _ = withHandles n (if _ then _ else _)
        rw [apply_ite (withHandles n)]
        rfl
  rw [step, moves, settle_withHandles, step]

theorem run_withHandles {steps : List Step} (other : ∀ s ∈ steps, s ≠ .session .dropHandle)
    (n : Nat) (k : Closing) : (k.withHandles n).run steps = (k.run steps).withHandles n := by
  induction steps generalizing k with
  | nil => rfl
  | cons s steps ih =>
      rw [List.forall_mem_cons] at other
      rw [run_cons, run_cons, step_withHandles other.1, ih other.2]

theorem Sound.withHandles {k : Closing} (h : Sound k) (n : Nat) : Sound (k.withHandles n) :=
  ⟨h.drained, h.emptied, h.told, h.known, h.done⟩

/-- To give up a handle changes their number, and nothing else. -/
theorem Sound.step_dropHandle {k : Closing} (h : Sound k) :
    k.step (.session .dropHandle) = k.withHandles (k.session.handles - 1) := by
  show (k.withHandles (k.session.handles - 1)).settle = _
  rw [settle_withHandles, settle_eq_self h.told]

/-- A task has ended only if it was asked to. -/
structure EndsAsked (k : Closing) : Prop where
  /-- The task that handles messages. -/
  handling : k.session.stopped = true → k.asked = true
  /-- The worker. -/
  worker : k.worker = .ended → k.asked = true

theorem EndsAsked.moves {k k' : Closing} {m : Option Message} (h : EndsAsked k)
    (move : Moves k m k') : EndsAsked k' := by
  have goesOn : ∀ {a}, a ≠ .shutdown → (k.session.act a).stopped = true → k.asked = true :=
    fun other stopped => h.handling ((Coordinator.act_stopped other _).symm.trans stopped)
  cases move with
  | idle => exact h
  | handled => exact ⟨goesOn (by simp), h.worker⟩
  | begun o => exact ⟨goesOn (by simp), fun ended => nomatch ended⟩
  | asked => exact ⟨fun _ => rfl, fun _ => rfl⟩
  | acted a aside =>
      refine ⟨goesOn ?_, h.worker⟩
      rintro rfl
      cases aside
  | called => exact ⟨h.handling, fun ended => nomatch ended⟩
  | handlingEnded asked => exact ⟨fun _ => asked, fun _ => asked⟩
  | workerEnded asked => exact ⟨fun _ => asked, fun _ => asked⟩
  | returned asked => exact ⟨fun _ => asked, fun _ => asked⟩

theorem EndsAsked.step {k : Closing} (h : EndsAsked k) (s : Step) : EndsAsked (k.step s) := by
  have moved := h.moves (move_moves s k)
  unfold Closing.step
  rw [settle_eq]
  exact ⟨moved.handling, moved.worker⟩

end Closing

/-! ## §3. Those who hold a session. -/

namespace Owned

open Closing (Sound EndsAsked Stays)

/-- While the task that handles messages goes on, it holds the session. -/
theorem isHeld_of_running {k : Owned} (running : k.session.stopped = false) : k.isHeld = true := by
  simp [isHeld, running]

theorem not_isHeld_iff {k : Owned} :
    k.isHeld = false ↔ k.handles = 0 ∧ k.session.stopped = true := by
  simp [isHeld]

/-- **The task that handles messages never sees its queue closed**: it holds the
session, which holds a way into the queue. -/
theorem messages_never_closed (k : Owned) : k.step .messagesEnd = k := by
  refine if_neg ?_
  rintro ⟨running, closed⟩
  rw [messagesAreClosed, isHeld_of_running running] at closed
  simp at closed

/-- What holds of a session in every run. -/
structure Kept (k : Owned) : Prop where
  /-- It is on its way to rest, or goes on. -/
  sound : Sound k.closing
  /-- A task has ended only if it was asked to. -/
  asked : EndsAsked k.closing

theorem kept_start (interval : Nat) : Kept (start interval) := by
  refine ⟨Closing.sound_start interval, ?_, ?_⟩
  · intro stopped
    cases stopped
  · intro ended
    cases ended

theorem performed?_session {s : Closing.Step} (other : s ≠ .session .dropHandle) (k : Owned) :
    k.performed? (.session s) = if k.may s then some s else none := by
  cases s with
  | session a =>
      cases a with
      | dropHandle => exact absurd rfl other
      | _ => rfl
  | _ => rfl

/-- The ways of a step, by what it does to the session and its tasks. -/
inductive Moves (k : Owned) : Option Closing.Step → Owned → Prop where
  /-- Nobody can take it, or there is nothing to do. -/
  | idle : Moves k none k
  /-- The session or a task takes a step. -/
  | performed (s : Closing.Step) (other : s ≠ .session .dropHandle) :
      Moves k (some s) { k with closing := k.closing.step s }
  /-- A caller takes a handle or gives one up. -/
  | handled (n : Nat) (some : 0 < k.handles) :
      Moves k none { k with closing := k.closing.withHandles n }
  /-- Something else is taken or given up; from nobody nothing can be taken. -/
  | counted (callbacks keepers : Nat)
      (given : k.handles = 0 → k.keepers = 0 → keepers = 0) :
      Moves k none { k with callbacks, keepers }

theorem Kept.session_moves {k : Owned} (h : Kept k) (s : Closing.Step) :
    Moves k (k.performed? (.session s)) (k.step (.session s)) := by
  by_cases drops : s = .session .dropHandle
  · subst drops
    show Moves k none (if _ then _ else _)
    split
    next may =>
      rw [h.sound.step_dropHandle]
      exact .handled _ (of_decide_eq_true may)
    next => exact .idle
  · rw [performed?_session drops]
    show Moves k _ (if _ then _ else _)
    split
    next => exact .performed s drops
    next => exact .idle

/-- A worker that finds its queue closed was asked to end, and does no more. -/
theorem Kept.callsEnd_moves {k : Owned} (h : Kept k) :
    Moves k (k.performed? .callsEnd) (k.step .callsEnd) := by
  show Moves k (if _ then _ else _) (if _ then _ else _)
  split
  next ends =>
    have gone : k.isHeld = false := by
      have closed := ends.2
      simp only [callsAreClosed, Bool.and_eq_true, Bool.not_eq_true'] at closed
      exact closed.2
    have asked := h.asked.handling (not_isHeld_iff.mp gone).2
    have same : { k.closing with session := k.session.endWorker, worker := .ended }.settle
        = k.closing.step (.session .endWorker) := by
      show _ = Closing.settle (if _ then _ else _)
      rw [if_pos ⟨asked, ends.1⟩]
      rfl
    rw [same]
    exact .performed (.session .endWorker) (by simp)
  next => exact .idle

/-- **Every step goes one of these ways.** -/
theorem Kept.step_moves {k : Owned} (h : Kept k) (s : Step) :
    Moves k (k.performed? s) (k.step s) := by
  cases s with
  | session s => exact h.session_moves s
  | callsEnd => exact h.callsEnd_moves
  | messagesEnd =>
      rw [messages_never_closed]
      exact .idle
  | cloneHandle =>
      show Moves k none (if _ then _ else _)
      split
      next some => exact .handled _ some
      next => exact .idle
  | giveCallbacks =>
      show Moves k none (if _ then _ else _)
      split
      next => exact .counted _ k.keepers fun _ none => none
      next => exact .idle
  | keepViews =>
      show Moves k none (if _ then _ else _)
      split
      next some => exact .counted k.callbacks _ fun handles keepers => by omega
      next => exact .idle
  | dropCallbacks => exact .counted _ k.keepers fun _ none => none
  | dropViews => exact .counted k.callbacks _ fun _ none => by omega

/-! ## §4. Runs. -/

/-- **What a step does to a session and its tasks**: handles that are taken or
given up make no difference but in their number. -/
theorem Moves.closing {k k' : Owned} {p : Option Closing.Step} (move : Moves k p k') :
    k'.closing = (k.closing.run p.toList).withHandles k'.handles := by
  cases move with
  | idle => rfl
  | performed => rfl
  | handled => rfl
  | counted => rfl

theorem Kept.step {k : Owned} (h : Kept k) (s : Step) : Kept (k.step s) := by
  have move := h.step_moves s
  generalize k.performed? s = p, k.step s = k' at move
  cases move with
  | idle => exact h
  | performed s => exact ⟨h.sound.step s, h.asked.step s⟩
  | handled n => exact ⟨h.sound.withHandles n, h.asked.handling, h.asked.worker⟩
  | counted => exact ⟨h.sound, h.asked⟩

theorem Kept.run {k : Owned} (h : Kept k) (steps : List Step) : Kept (k.run steps) := by
  induction steps generalizing k with
  | nil => exact h
  | cons s steps ih => exact ih (h.step s)

theorem Kept.performed_ne {k : Owned} (h : Kept k) (steps : List Step) :
    ∀ s ∈ k.performed steps, s ≠ .session .dropHandle := by
  induction steps generalizing k with
  | nil =>
      intro s listed
      cases listed
  | cons s steps ih =>
      refine List.forall_mem_append.mpr ⟨?_, ih (h.step s)⟩
      have move := h.step_moves s
      generalize k.performed? s = p, k.step s = k' at move
      cases move with
      | performed s other => simpa using other
      | idle => simp
      | handled => simp
      | counted => simp

/-- **What a run does to a session and its tasks is what they perform in it**,
with no handle taken or given up. -/
theorem Kept.run_closing {k : Owned} (h : Kept k) (steps : List Step) :
    (k.run steps).closing
      = (k.closing.run (k.performed steps)).withHandles (k.run steps).handles := by
  induction steps generalizing k with
  | nil => rfl
  | cons s steps ih =>
      have rest := ih (h.step s)
      rw [(h.step_moves s).closing,
        Closing.run_withHandles ((h.step s).performed_ne steps), Closing.withHandles_withHandles,
        ← Closing.run_append] at rest
      exact rest

/-! ## §5. After shutdown. -/

/-- Shutdown has returned, and the last handle was given up. -/
structure Over (k : Owned) : Prop where
  kept : Kept k
  returned : k.closing.returned = true
  handles : k.handles = 0

theorem Over.not_isHeld {k : Owned} (h : Over k) : k.isHeld = false :=
  not_isHeld_iff.mpr ⟨h.handles, (h.kept.sound.done h.returned).2.1⟩

theorem Over.step {k : Owned} (h : Over k) (s : Step) :
    Over (k.step s) ∧ Stays k.closing (k.step s).closing
      ∧ (k.keepers = 0 → (k.step s).keepers = 0) := by
  have kept := h.kept.step s
  have move := h.kept.step_moves s
  generalize k.performed? s = p, k.step s = k' at move kept
  cases move with
  | idle => exact ⟨h, .refl _, id⟩
  | handled _ some => exact absurd h.handles (Nat.ne_of_gt some)
  | counted callbacks keepers given =>
      exact ⟨⟨kept, h.returned, h.handles⟩, .refl _, given h.handles⟩
  | performed s other =>
      have stays := h.kept.sound.step_stays h.returned s
      refine ⟨⟨kept, stays.returned.trans h.returned, ?_⟩, stays, id⟩
      -- no step but the one that gives up a handle changes their number
      have same := Closing.step_withHandles other k.closing.session.handles k.closing
      rw [Closing.withHandles_self] at same
      exact (congrArg (fun k => k.session.handles) same).trans h.handles

theorem Over.run {k : Owned} (h : Over k) (steps : List Step) :
    Over (k.run steps) ∧ Stays k.closing (k.run steps).closing
      ∧ (k.keepers = 0 → (k.run steps).keepers = 0) := by
  induction steps generalizing k with
  | nil => exact ⟨h, .refl _, id⟩
  | cons s steps ih =>
      obtain ⟨gone, stays, keepers⟩ := h.step s
      obtain ⟨gone', stays', keepers'⟩ := ih gone
      exact ⟨gone', stays.trans stays', fun none => keepers' (keepers none)⟩

/-! ## §6. The main result. -/

/-- A view as it is shown. -/
def channel (v : View) (k : Owned) : Channel v.Value := k.session.display.channel v

/-- What an observer of a view gets when it asks for the next change. -/
def changed {v : View} (s : Subscription v.Value) (k : Owned) :
    Polled v.Value × Subscription v.Value :=
  s.changed (k.channel v) (k.hasEnded v)

/-- What ends the work of a session, told of a state `k` that a run has come to,
where the session and its tasks have performed what leads to `tasks`. -/
structure EndsByShutdown (k : Owned) (tasks : Closing) : Prop where
  /-- Handles that were given up have made no difference. -/
  same : k.closing = tasks.withHandles k.handles
  /-- The task that handles messages does not see its queue closed. -/
  opened : k.step .messagesEnd = k
  /-- Before shutdown both tasks go on and no view ends, whoever is left. -/
  goesOn : k.closing.asked = false →
    k.session.stopped = false ∧ k.closing.worker ≠ .ended ∧ ∀ v, k.hasEnded v = false
  /-- When shutdown has returned and no handle is left, nothing happens any
  more. -/
  still : k.closing.returned = true → k.handles = 0 → ∀ after,
    (k.run after).handles = 0 ∧ Stays k.closing (k.run after).closing
  /-- Then every observer gets one change at most that it has not seen, and
  after that the end, unless somebody else holds its view. -/
  ends : k.closing.returned = true → k.handles = 0 → ∀ v, v = .state ∨ k.keepers = 0 →
    ∀ (s : Subscription v.Value) before after,
      let first := changed s (k.run before)
      let second := changed first.2 (k.run (before ++ after))
      (first.1 = .ended ∨ first.1 = .ready (k.channel v).value) ∧ second.1 = .ended

/-- What is shown does not change when nothing happens any more. -/
theorem channel_of_stays {k k' : Owned} (stays : Stays k.closing k'.closing) (v : View) :
    k'.channel v = k.channel v := by
  have state : k'.session.display = k.session.display := by
    rw [session, stays.session.eq]
    rfl
  rw [channel, channel, state]

theorem Over.hasEnded {k : Owned} (h : Over k) {v : View} (given : v = .state ∨ k.keepers = 0) :
    k.hasEnded v = true := by
  rcases given with rfl | none
  · simp [Owned.hasEnded, h.not_isHeld]
  · cases v <;> simp [Owned.hasEnded, h.not_isHeld, none]

/-- An observer of a view that has ended gets one change at most that it has not
seen, and then the end. -/
theorem changed_twice {α : Type} (s : Subscription α) (c : Channel α) :
    ((s.changed c true).1 = .ended ∨ (s.changed c true).1 = .ready c.value)
      ∧ ((s.changed c true).2.changed c true).1 = .ended := by
  by_cases seen : s.seen = c.version
  · simp [Subscription.changed, seen]
  · simp [Subscription.changed, Subscription.of, seen]

/-- When nothing happens any more, observers find the view as it was left. -/
theorem Over.changed {k : Owned} (h : Over k) {v : View} (given : v = .state ∨ k.keepers = 0)
    (s : Subscription v.Value) (after : List Step) :
    Owned.changed s (k.run after) = s.changed (k.channel v) true := by
  obtain ⟨gone, stays, keepers⟩ := h.run after
  rw [Owned.changed, channel_of_stays stays, gone.hasEnded (given.imp_right keepers)]

/-- **Shutdown alone ends the work of a session.**  To give up handles, even the
last one, changes nothing but their number; the session goes on as if they were
there, and its views do not end.  After shutdown has returned, the last handle
takes the views along. -/
theorem shutdown_alone_ends_the_work (interval : Nat) (steps : List Step) :
    EndsByShutdown ((start interval).run steps)
      ((Closing.start interval).run ((start interval).performed steps)) := by
  have same := (kept_start interval).run_closing steps
  have kept := (kept_start interval).run steps
  generalize (start interval).run steps = k at same kept
  refine ⟨same, messages_never_closed k, ?_, ?_, ?_⟩
  · intro asked
    have running : k.session.stopped = false := by
      rw [← Bool.not_eq_true]
      intro stopped
      rw [kept.asked.handling stopped] at asked
      cases asked
    refine ⟨running, ?_, ?_⟩
    · intro ended
      rw [kept.asked.worker ended] at asked
      cases asked
    · intro v
      cases v <;> simp [hasEnded, isHeld_of_running running]
  · intro returned handles after
    obtain ⟨gone, stays, -⟩ := Over.run ⟨kept, returned, handles⟩ after
    exact ⟨gone.handles, stays⟩
  · intro returned handles v given s before after first second
    have gone : Over k := ⟨kept, returned, handles⟩
    have twice := changed_twice s (k.channel v)
    rw [← gone.changed given s before, ← gone.changed given _ (before ++ after)] at twice
    exact twice

/-- A session that is Connected, from which the last handle is given up, and
the engine's way into the queue with it: the request that waits is handled and
its call delivered, the next pull begins, and an observer of the state waits. -/
theorem work_goes_on_without_handles :
    let acts : List Coordinator.Action → List Step := List.map fun a => .session (.session a)
    let before : List Step :=
      .giveCallbacks :: acts
        [.callback .connected, .handleNext, .beginTimed 0, .endPull 0 none, .report 0, .handleNext,
          .request .disconnect, .dropHandle] ++ [.dropCallbacks]
    let after : List Step :=
      .messagesEnd :: .callsEnd
        :: acts [.handleNext, .callNext .delivered, .advance 5000, .beginTimed 0]
    let k := (start 5000).run before
    let k' := k.run after
    (k.handles = 0 ∧ k.callbacks = 0 ∧ k.keepers = 0)
      ∧ (k.session.started = 1 ∧ k.session.attempted = [])
      ∧ (k'.session.started = 2 ∧ k'.session.attempted = [.disconnect])
      ∧ (changed (v := .state) (.of (k.channel .state)) k').1 = .pending := by
  refine ⟨⟨rfl, rfl, rfl⟩, ⟨rfl, rfl⟩, ⟨rfl, rfl⟩, rfl⟩

end Owned

end TunnelControl
