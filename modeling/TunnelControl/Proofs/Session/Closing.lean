/-
  TunnelControl.Proofs.Session.Closing
  ────────────────────────────────────
  **NOTHING HAPPENS AFTER SHUTDOWN HAS RETURNED TO THE ONE WHO WAITED.**

  Shutdown returns when both tasks have ended, to the one who waits for them.
  Then no message and no call waits, and every loop was told to end, however
  the tasks came to their ends and whatever arrived meanwhile.  The session is
  at rest from there on.  Somebody else who calls shutdown meanwhile does not
  wait: what the tasks have at hand then, one message and one call at most, is
  still finished.

    • `handled`, `Moves`, `move_moves` — what one step can do,
    • `Sound`, `run_sound`     — what holds on the way,
    • `Spends`, `run_spends`   — what is at hand is used up,
    • `Sound.atRest`           — at rest when shutdown returns,
    • `shutdown_can_return`    — from every state it can,
    • `AfterShutdown`, `little_happens_after_shutdown` — the main result,
    • `session_changes_after_second_shutdown` — whom it does not serve.
-/
import TunnelControl.Proofs.Session.Rest

namespace TunnelControl

open Coordinator (AtRest Faded Drained Emptied)

namespace Closing

/-! ## §1. Runs. -/

@[simp] theorem run_nil (k : Closing) : k.run [] = k := rfl

@[simp] theorem run_cons (s : Step) (steps : List Step) (k : Closing) :
    k.run (s :: steps) = (k.step s).run steps := rfl

theorem run_append (before after : List Step) (k : Closing) :
    k.run (before ++ after) = (k.run before).run after := by
  simp only [run, List.foldl_append]

/-- What every step keeps holds after every run. -/
theorem run_induction {P : Closing → Prop} (step : ∀ k s, P k → P (k.step s))
    {k : Closing} (h : P k) (steps : List Step) : P (k.run steps) := by
  induction steps generalizing k with
  | nil => exact h
  | cons s steps ih => exact ih (step k s h)

/-- The message that a step handles. -/
def handledBy (s : Step) (k : Closing) : Option Message :=
  match s with
  | .session .handleNext =>
      if k.asked ∧ k.messageAtHand = false then none else k.session.inbox.head?
  | _ => none

/-- The messages that a run handles, in order. -/
def handled : List Step → Closing → List Message
  | [], _ => []
  | s :: steps, k => (k.handledBy s).toList ++ handled steps (k.step s)

/-! ## §2. On the way. -/

/-- The ways of a step, before it is settled, with the message that it handles. -/
inductive Moves (k : Closing) : Option Message → Closing → Prop where
  /-- The task is not there yet, or there is nothing to do. -/
  | idle : Moves k none k
  /-- The next message is handled. -/
  | handled (atHand : k.asked = true → k.messageAtHand = true) :
      Moves k k.session.inbox.head?
        { k with session := k.session.act .handleNext, messageAtHand := !k.asked }
  /-- The worker begins a call. -/
  | begun (o : Coordinator.CallOutcome) (worker : k.worker = .idle)
      (atHand : k.asked = true → k.callAtHand = true) :
      Moves k none
        { k with session := k.session.act (.callNext o), worker := .calling, callAtHand := !k.asked }
  /-- The tasks are asked to end, or have been before. -/
  | asked : Moves k none { k with asked := true, returnedAgain := k.returnedAgain || k.asked }
  /-- Something happens in the session beside its tasks. -/
  | acted (a : Coordinator.Action) (aside : a.isAside = true) :
      Moves k none { k with session := k.session.act a }
  /-- The call that is with the engine comes to its end. -/
  | called (worker : k.worker = .calling) : Moves k none { k with worker := .idle }
  /-- The task that handles messages ends. -/
  | handlingEnded (asked : k.asked = true) (running : k.session.stopped = false) :
      Moves k none { k with session := k.session.endHandling }
  /-- The worker ends. -/
  | workerEnded (asked : k.asked = true) (worker : k.worker = .idle) :
      Moves k none { k with session := k.session.act .endWorker, worker := .ended }
  /-- Shutdown returns. -/
  | returned (asked : k.asked = true) (stopped : k.session.stopped = true)
      (worker : k.worker = .ended) : Moves k none { k with returned := true }

theorem handleNext_moves (k : Closing) :
    Moves k (k.handledBy (.session .handleNext)) k.handleNext := by
  unfold handledBy handleNext
  dsimp only
  split
  next => exact .idle
  next some =>
    refine .handled fun asked => ?_
    rw [asked] at some
    simpa using some

theorem beginCall_moves (o : Coordinator.CallOutcome) (k : Closing) :
    Moves k none (k.beginCall o) := by
  unfold beginCall
  split
  next => exact .idle
  next begins =>
    simp only [not_or, not_and, ne_eq, Decidable.not_not, Bool.not_eq_false] at begins
    exact .begun o begins.1 begins.2.2

theorem act_moves (a : Coordinator.Action) (k : Closing) :
    Moves k (k.handledBy (.session a)) (k.act a) := by
  cases a with
  | handleNext => exact handleNext_moves k
  | callNext o => exact beginCall_moves o k
  | endWorker =>
      show Moves k none (if _ then _ else _)
      split
      next ends => exact .workerEnded ends.1 ends.2
      next => exact .idle
  | shutdown => exact .asked
  | _ => exact .acted _ rfl

/-- **Every step goes one of these ways.** -/
theorem move_moves (s : Step) (k : Closing) : Moves k (k.handledBy s) (k.move s) := by
  cases s with
  | session a => exact act_moves a k
  | callEnds =>
      show Moves k none (if _ then _ else _)
      split
      next worker => exact .called worker
      next => exact .idle
  | handlingEnds =>
      show Moves k none (if _ then _ else _)
      split
      next ends => exact .handlingEnded ends.1 ends.2
      next => exact .idle
  | returns =>
      show Moves k none (if _ then _ else _)
      split
      next ends => exact .returned ends.1 ends.2.1 ends.2.2
      next => exact .idle

/-- What holds while a session comes to rest. -/
structure Sound (k : Closing) : Prop where
  /-- When the task that handles messages has ended, none waits. -/
  drained : Drained k.session
  /-- When the worker has ended, no call waits. -/
  emptied : Emptied k.session
  /-- When the tasks were asked to end, so was every loop. -/
  told : k.asked = true → ∀ l ∈ k.session.loops, l.cancelled = true
  /-- The session knows of the worker's end. -/
  known : k.worker = .ended → k.session.workerEnded = true
  /-- Shutdown returns when both tasks have ended. -/
  done : k.returned = true → k.asked = true ∧ k.session.stopped = true ∧ k.worker = .ended

theorem sound_start (interval : Nat) : Sound (start interval) := by
  refine ⟨?_, ?_, ?_, ?_, ?_⟩
  · intro h
    cases h
  · intro h
    cases h
  · intro h
    cases h
  · intro h
    cases h
  · intro h
    cases h

variable {k k' : Closing} {m : Option Message}

theorem Sound.drained_moves (h : Sound k) (move : Moves k m k') : Drained k'.session := by
  have acts := fun a => h.drained.change (Coordinator.act_change a k.session)
  cases move with
  | handled => exact acts .handleNext
  | begun o => exact acts (.callNext o)
  | acted a => exact acts a
  | handlingEnded => exact fun _ => rfl
  | workerEnded => exact acts .endWorker
  | _ => exact h.drained

theorem Sound.emptied_moves (h : Sound k) (move : Moves k m k') : Emptied k'.session := by
  cases move with
  | handled => exact h.emptied.act .handleNext
  | begun o => exact h.emptied.act (.callNext o)
  | acted a => exact h.emptied.act a
  | workerEnded => exact h.emptied.act .endWorker
  | _ => exact h.emptied

/-- A session that knows of its worker's end does not forget it. -/
theorem Sound.known_moves (h : Sound k) (move : Moves k m k') (ended : k'.worker = .ended) :
    k'.session.workerEnded = true := by
  have acts : ∀ a, k.worker = .ended → (k.session.act a).workerEnded = true := by
    intro a ended
    rw [← Bool.not_eq_false]
    intro works
    have before := Coordinator.act_works works
    rw [h.known ended] at before
    cases before
  cases move with
  | handled => exact acts .handleNext ended
  | begun => cases ended
  | acted a => exact acts a ended
  | called => cases ended
  | workerEnded => rfl
  | _ => exact h.known ended

/-- Once shutdown has returned, both tasks have ended for good. -/
theorem Sound.done_moves (h : Sound k) (move : Moves k m k') (returned : k'.returned = true) :
    k'.asked = true ∧ k'.session.stopped = true ∧ k'.worker = .ended := by
  have acts : ∀ {a}, a ≠ .shutdown → k.returned = true →
      k.asked = true ∧ (k.session.act a).stopped = true ∧ k.worker = .ended := by
    intro a goesOn returned
    obtain ⟨asked, stopped, ended⟩ := h.done returned
    exact ⟨asked, (Coordinator.act_stopped goesOn k.session).trans stopped, ended⟩
  cases move with
  | idle => exact h.done returned
  | handled => exact acts (by simp) returned
  | begun o worker =>
      -- a worker that begins a call has not ended
      rw [(h.done returned).2.2] at worker
      cases worker
  | asked => exact ⟨rfl, (h.done returned).2⟩
  | acted a aside =>
      refine acts ?_ returned
      rintro rfl
      cases aside
  | called worker =>
      rw [(h.done returned).2.2] at worker
      cases worker
  | handlingEnded asked => exact ⟨asked, rfl, (h.done returned).2.2⟩
  | workerEnded asked => exact ⟨asked, (h.done returned).2.1, rfl⟩
  | returned asked stopped worker => exact ⟨asked, stopped, worker⟩

/-- What is settled is loops; all else is as it was. -/
theorem settle_eq (k : Closing) :
    k.settle = { k with session := { k.session with loops := k.settle.session.loops } } := by
  unfold settle
  cases k.asked <;> rfl

theorem told_settle (k : Closing) (asked : k.asked = true) :
    ∀ l ∈ k.settle.session.loops, l.cancelled = true := by
  have loops : k.settle.session.loops = k.session.cancelLoops.loops := by
    simp [settle, asked]
  rw [loops]
  intro l hl
  obtain ⟨l₀, -, rfl⟩ := List.mem_map.mp hl
  rfl

/-- **Every step keeps it.** -/
theorem Sound.step (h : Sound k) (s : Step) : Sound (k.step s) := by
  have move := move_moves s k
  have drained := h.drained_moves move
  have emptied := h.emptied_moves move
  have known := h.known_moves move
  have done := h.done_moves move
  unfold Closing.step
  generalize k.move s = k' at drained emptied known done
  have same := settle_eq k'
  refine ⟨?_, ?_, ?_, ?_, ?_⟩
  · rw [same]
    exact drained
  · rw [same]
    exact emptied
  · intro asked
    rw [same] at asked
    exact told_settle k' asked
  · rw [same]
    exact known
  · rw [same]
    exact done

theorem run_sound (interval : Nat) (steps : List Step) : Sound ((start interval).run steps) :=
  run_induction (fun _ s h => h.step s) (sound_start interval) steps

/-! ## §3. What is at hand. -/

/-- What can still happen between two moments when the tasks were asked to end,
with the messages that are handled meanwhile: what is at hand is used up. -/
structure Spends (handled : List Message) (k k' : Closing) : Prop where
  asked : k'.asked = true
  /-- A message is handled that was at hand. -/
  message : handled.length + k'.messageAtHand.toNat ≤ k.messageAtHand.toNat
  /-- Without one, state, views, config and attempt are as they were. -/
  standing : handled = [] → k'.session.standing = k.session.standing
  /-- A call is begun that was at hand. -/
  call : ∃ calls, k'.session.attempted = k.session.attempted ++ calls
    ∧ calls.length + k'.callAtHand.toNat ≤ k.callAtHand.toNat
  /-- The engine is asked for no pull. -/
  asking : ∀ number, k'.session.Asking number → k.session.Asking number

/-- Nothing is used up where the session goes on unchanged. -/
theorem Spends.of_session_eq (asked : k'.asked = true) (session : k'.session = k.session)
    (message : k'.messageAtHand = k.messageAtHand) (call : k'.callAtHand = k.callAtHand) :
    Spends [] k k' where
  asked := asked
  message := by simp [message]
  standing := fun _ => by rw [session]
  call := ⟨[], by simp [session], by simp [call]⟩
  asking := fun _ now => session ▸ now

theorem Spends.refl (asked : k.asked = true) : Spends [] k k := .of_session_eq asked rfl rfl rfl

theorem Spends.trans {k'' : Closing} {first next : List Message} (h : Spends first k k')
    (h' : Spends next k' k'') : Spends (first ++ next) k k'' where
  asked := h'.asked
  message := by
    have one := h.message
    have two := h'.message
    rw [List.length_append]
    omega
  standing := by
    intro none
    obtain ⟨none₁, none₂⟩ := List.append_eq_nil_iff.mp none
    exact (h'.standing none₂).trans (h.standing none₁)
  call := by
    obtain ⟨calls, e, few⟩ := h.call
    obtain ⟨calls', e', few'⟩ := h'.call
    refine ⟨calls ++ calls', by rw [e', e, List.append_assoc], ?_⟩
    rw [List.length_append]
    omega
  asking := fun number now => h.asking number (h'.asking number now)

/-- A step of the session that handles no message and begins no call uses
nothing up. -/
theorem Sound.spends_act (h : Sound k) (asked : k.asked = true) {a : Coordinator.Action}
    (quiet : a ≠ .handleNext) (calm : ∀ o, a ≠ .callNext o) :
    Spends [] k { k with session := k.session.act a } where
  asked := asked
  message := by simp
  standing := by
    intro _
    show (k.session.act a).standing = k.session.standing
    rw [Coordinator.act_standing, Coordinator.handledBy_eq_none quiet]
  call := ⟨[], by rw [List.append_nil]; exact Coordinator.act_attempted calm k.session, by simp⟩
  asking := fun _ now => Coordinator.asking_of_told (h.told asked) a now

theorem Sound.spends_moves (h : Sound k) (asked : k.asked = true) (move : Moves k m k') :
    Spends m.toList k k' := by
  cases move with
  | idle => exact .refl asked
  | handled atHand =>
      refine ⟨asked, ?_, ?_, ⟨[], ?_, by simp⟩, fun _ now => ?_⟩
      · rw [asked, atHand asked]
        cases k.session.inbox.head? <;> simp
      · intro none
        have idle : k.session.inbox = [] := by simpa using none
        show (k.session.act .handleNext).standing = _
        rw [Coordinator.handleNext_nil idle]
      · rw [List.append_nil]
        exact Coordinator.act_attempted (by simp) k.session
      · exact Coordinator.asking_of_told (h.told asked) .handleNext now
  | begun o worker atHand =>
      refine ⟨asked, by simp, fun _ => ?_, ⟨k.session.outbox.head?.toList, ?_, ?_⟩, fun _ now => ?_⟩
      · exact Coordinator.act_standing (.callNext o) k.session
      · exact congrArg Coordinator.attempted (Coordinator.callNext_eq o k.session)
      · rw [asked, atHand asked]
        cases k.session.outbox.head? <;> simp
      · exact Coordinator.asking_of_told (h.told asked) (.callNext o) now
  | asked => exact .of_session_eq rfl rfl rfl rfl
  | acted a aside =>
      refine h.spends_act asked ?_ fun o => ?_
      · rintro rfl
        cases aside
      · rintro rfl
        cases aside
  | called => exact .of_session_eq asked rfl rfl rfl
  | handlingEnded =>
      -- loops and messages go, and the calls are as they were
      have calls : k.session.endHandling.attempted = k.session.attempted ++ [] :=
        (List.append_nil _).symm
      exact ⟨asked, by simp, fun _ => rfl, ⟨[], calls, by simp⟩, fun _ now => now⟩
  | workerEnded =>
      have ends := h.spends_act (a := .endWorker) asked (by simp) (by simp)
      exact ⟨asked, ends.message, ends.standing, ends.call, ends.asking⟩
  | returned => exact .of_session_eq asked rfl rfl rfl

/-- **A step in a session that was asked to end uses up what is at hand.** -/
theorem Sound.step_spends (h : Sound k) (asked : k.asked = true) (s : Step) :
    Spends (k.handledBy s).toList k (k.step s) := by
  have spent := h.spends_moves asked (move_moves s k)
  unfold Closing.step
  rw [settle_eq]
  exact ⟨spent.asked, spent.message, spent.standing, spent.call, spent.asking⟩

/-- **So does a run.** -/
theorem Sound.run_spends (h : Sound k) (asked : k.asked = true) (steps : List Step) :
    Spends (k.handled steps) k (k.run steps) := by
  induction steps generalizing k with
  | nil => exact .refl asked
  | cons s steps ih =>
      have step := h.step_spends asked s
      exact step.trans (ih (h.step s) step.asked)

/-! ## §4. At rest. -/

/-- **When shutdown returns, the session is at rest.** -/
theorem Sound.atRest (h : Sound k) (returned : k.returned = true) : AtRest k.session := by
  obtain ⟨asked, stopped, ended⟩ := h.done returned
  have gone := h.known ended
  exact ⟨stopped, h.drained stopped, h.emptied gone, gone, h.told asked⟩

/-- Where every loop was told to end that should be, nothing is left to settle. -/
theorem settle_eq_self (told : k.asked = true → ∀ l ∈ k.session.loops, l.cancelled = true) :
    k.settle = k := by
  have loops : (if k.asked then k.session.cancelLoops else k.session) = k.session := by
    split
    next asked =>
      have same : k.session.loops.map (fun l => { l with cancelled := true }) = k.session.loops := by
        refine (List.map_congr_left fun l hl => ?_).trans (List.map_id _)
        rw [← told asked l hl]
        rfl
      rw [Coordinator.cancelLoops, same]
    next => rfl
  rw [settle, loops]

/-- Nothing is left to settle in a session at rest. -/
theorem settle_of_atRest (rest : AtRest k.session) : k.settle = k :=
  settle_eq_self fun _ => rest.loops

/-- What a step leaves when shutdown has returned. -/
structure Stays (k k' : Closing) : Prop where
  session : Faded k.session k'.session
  worker : k'.worker = k.worker
  returned : k'.returned = k.returned

theorem Stays.refl (k : Closing) : Stays k k := ⟨.refl _, rfl, rfl⟩

theorem Stays.trans {k k' k'' : Closing} (h : Stays k k') (h' : Stays k' k'') : Stays k k'' :=
  ⟨h.session.trans h'.session, h'.worker.trans h.worker, h'.returned.trans h.returned⟩

/-- **When shutdown has returned, a step does no more than in a session at
rest.** -/
theorem Sound.step_stays (h : Sound k) (returned : k.returned = true) (s : Step) :
    Stays k (k.step s) := by
  have rest := h.atRest returned
  obtain ⟨-, stopped, ended⟩ := h.done returned
  have moved : Stays k (k.move s) := by
    have move := move_moves s k
    generalize k.handledBy s = m, k.move s = k' at move ⊢
    cases move with
    | idle => exact .refl k
    | handled => exact ⟨rest.act .handleNext, rfl, rfl⟩
    | asked => exact ⟨.refl _, rfl, rfl⟩
    | acted a => exact ⟨rest.act a, rfl, rfl⟩
    | returned => exact ⟨.refl _, rfl, returned.symm⟩
    | handlingEnded _ running =>
        rw [stopped] at running
        cases running
    | begun _ worker =>
        rw [ended] at worker
        cases worker
    | called worker =>
        rw [ended] at worker
        cases worker
    | workerEnded _ worker =>
        rw [ended] at worker
        cases worker
  have settled : k.step s = k.move s := settle_of_atRest (rest.of_faded moved.session)
  rw [settled]
  exact moved

theorem Sound.run_stays (h : Sound k) (returned : k.returned = true) (steps : List Step) :
    Stays k (k.run steps) := by
  have all := run_induction (P := fun k' => Sound k' ∧ Stays k k')
    (fun k' s ⟨sound, stays⟩ =>
      ⟨sound.step s, stays.trans (sound.step_stays (stays.returned.trans returned) s)⟩)
    ⟨h, .refl k⟩ steps
  exact all.2

/-- Shutdown can return, whatever the tasks are at: each comes to its end. -/
theorem shutdown_can_return (k : Closing) :
    (k.run [.session .shutdown, .callEnds, .handlingEnds, .session .endWorker, .returns]).returned
      = true := by
  cases stopped : k.session.stopped <;> cases worker : k.worker <;>
    simp [step, move, act, settle, worker, stopped, Coordinator.cancelLoops,
      Coordinator.endHandling, Coordinator.act, Coordinator.endWorker]

/-! ## §5. The main result. -/

/-- What holds from the return of shutdown to the one who waited, in `k`, to any
later moment, in `k'`. -/
structure NothingMore (k k' : Closing) : Prop where
  /-- The state, both views with the time of the last snapshot, the config and
  the attempt are as they were. -/
  standing : k'.session.standing = k.session.standing
  /-- The engine is at no call. -/
  worker : k'.worker = .ended
  /-- It has got no call since. -/
  attempted : k'.session.attempted = k.session.attempted
  /-- No pull was started. -/
  started : k'.session.started = k.session.started
  /-- No pull that was to begin has begun, and none has come further. -/
  pulls : k'.session.pulls.Sublist k.session.pulls
  /-- A request that is not valid is refused for that. -/
  invalid : ∀ r cause, r.prepare = .error cause →
    k'.session.complaint r = some (.rejected cause)
  /-- Every other request is refused for the end. -/
  late : ∀ r command, r ≠ .disconnect → r.prepare = .ok command →
    k'.session.complaint r = some .shutDown
  /-- A disconnect is refused in silence. -/
  disconnect : k'.session.complaint .disconnect = none

theorem Sound.nothingMore (h : Sound k) (returned : k.returned = true) (after : List Step) :
    NothingMore k (k.run after) := by
  have stays := h.run_stays returned after
  generalize k.run after = k' at stays
  have stopped : k'.session.stopped = true := by
    rw [stays.session.eq]
    exact (h.atRest returned).stopped
  refine ⟨?_, ?_, ?_, ?_, stays.session.pulls, ?_, ?_, rfl⟩
  · rw [stays.session.eq]
    rfl
  · exact stays.worker.trans (h.done returned).2.2
  · rw [stays.session.eq]
  · rw [stays.session.eq]
  · intro r cause invalid
    have other : r ≠ .disconnect := by
      rintro rfl
      cases invalid
    rw [Coordinator.complaint_of_stopped stopped other, invalid]
  · intro r command other valid
    rw [Coordinator.complaint_of_stopped stopped other, valid]

/-- What holds from the moment shutdown was called, in `k`, to any later one, in
`k'`, with the messages that were handled meanwhile. -/
structure AfterShutdown (k k' : Closing) (handled : List Message) : Prop where
  /-- When it has returned to the one who waited, nothing happens any more. -/
  nothing : k.returned = true → NothingMore k k'
  /-- Before that, or when it has returned to somebody else alone, one message
  is handled at most. -/
  message : handled.length ≤ 1
  /-- Without one, the state, both views, the config and the attempt are as they
  were. -/
  standing : handled = [] → k'.session.standing = k.session.standing
  /-- The engine gets one call at most. -/
  call : ∃ calls, k'.session.attempted = k.session.attempted ++ calls ∧ calls.length ≤ 1
  /-- It is asked for no further pull. -/
  asking : ∀ number, k'.session.Asking number → k.session.Asking number

/-- **After shutdown has returned to the one who waited, nothing happens any
more**, whatever else is reported, requested, or comes to its end.  Before that
the tasks finish what they have at hand, and no more. -/
theorem little_happens_after_shutdown {interval : Nat} {before : List Step}
    (asked : ((start interval).run before).asked = true) (after : List Step) :
    AfterShutdown ((start interval).run before) ((start interval).run (before ++ after))
      (((start interval).run before).handled after) := by
  have sound := run_sound interval before
  rw [run_append]
  generalize (start interval).run before = k at asked sound
  have spent := sound.run_spends asked after
  refine ⟨fun returned => sound.nothingMore returned after, ?_, spent.standing, ?_, spent.asking⟩
  · exact Nat.le_trans (Nat.le_add_right ..) (Nat.le_trans spent.message (Bool.toNat_le _))
  · obtain ⟨calls, e, few⟩ := spent.call
    exact ⟨calls, e, Nat.le_trans (Nat.le_add_right ..) (Nat.le_trans few (Bool.toNat_le _))⟩

/-- A session that is shut down while a pull and a call are under way: both
come to their end, and the result and the callback that follow change nothing. -/
theorem little_happens_after_shutdown_while_busy :
    let before : List Step :=
      [.session (.callback .connected), .session .handleNext, .session (.beginTimed 0),
        .session (.request .disconnect), .session .handleNext,
        .session (.callNext .delivered), .session (.request .refresh), .session .shutdown,
        .handlingEnds, .callEnds, .session .endWorker, .returns]
    let after : List Step :=
      [.session (.endPull 0 none), .session (.report 0), .session (.callback .terminated),
        .session .handleNext, .session (.request (.switchOrg "acme")), .session .handleNext,
        .session (.advance 5000), .session (.beginTimed 0), .session (.callNext .delivered)]
    let k := (start 5000).run before
    (k.asked = true ∧ k.returned = true)
      ∧ AfterShutdown k ((start 5000).run (before ++ after)) (k.handled after) :=
  ⟨⟨rfl, rfl⟩, little_happens_after_shutdown rfl _⟩

/-- Shutdown is called a second time while a connect request, or a callback, is at
hand: it has returned to the second who called it when the active config changes
and a call reaches the engine, or the state changes. -/
theorem session_changes_after_second_shutdown :
    let config : ConnectionConfig := { endpoint := "vpn", userToken := some "t", orgId := "org_1" }
    let twice (a : Coordinator.Action) : Closing :=
      (start 5000).run [.session a, .session .shutdown, .session .shutdown]
    let asked := twice (.request (.connect config))
    let asked' := asked.run [.session .handleNext, .session (.callNext .delivered)]
    let told := twice (.callback .registered)
    let told' := told.run [.session .handleNext]
    (asked.returnedAgain = true ∧ asked.session.active = none ∧ asked.session.attempted = [])
      ∧ (asked'.session.active.map ValidatedConfig.orgId = some "org_1"
        ∧ asked'.session.attempted.map EngineCall.name = ["connect"])
      ∧ (told.returnedAgain = true ∧ told.session.state.value = .disconnected)
      ∧ told'.session.state.value = .registered := by
  exact ⟨⟨rfl, rfl, rfl⟩, ⟨rfl, rfl⟩, ⟨rfl, rfl⟩, rfl⟩

end Closing

end TunnelControl
