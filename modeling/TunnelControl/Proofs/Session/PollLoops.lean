/-
  TunnelControl.Proofs.Session.PollLoops
  ──────────────────────────────────────
  **ONE LOOP FOR EACH STAY IN CONNECTED.**

  A session polls exactly while its state is Connected and its work has not
  been ended.  The loop that polls is the one loop that was not told to end;
  it is started by the step that enters Connected, and by no other.  Pulls of
  both kinds begin only while it lives.

    • `flags`                  — which loops were told to end,
    • `LoopLives`              — the loop that polls was not,
    • `enters`, `run_loops`    — a loop for each entry into Connected,
    • `Change.begins`          — pulls begin only while a loop lives,
    • `polls_exactly_while_connected`.
-/
import TunnelControl.Proofs.Session.PullPeriod
import TunnelControl.Proofs.Session.Requests

namespace TunnelControl.Coordinator

/-! ## §1. The loop that polls. -/

/-- Which loops were told to end, in the order they were started. -/
def flags (loops : List PollLoop) : List Bool := loops.map fun l => l.cancelled

theorem flags_getElem? (loops : List PollLoop) (i : Nat) :
    (flags loops)[i]? = loops[i]?.map fun l => l.cancelled := List.getElem?_map

/-- A loop whose next pull is put off is told nothing. -/
theorem flags_set {loops : List PollLoop} {i : Nat} {l : PollLoop} (h : loops[i]? = some l)
    (due : Option Nat) (busy : Bool) :
    flags (loops.set i { l with due := due, busy := busy }) = flags loops := by
  have hi : i < loops.length := (List.getElem?_eq_some_iff.mp h).1
  refine List.ext_getElem? fun k => ?_
  rw [flags_getElem?, flags_getElem?]
  by_cases hk : i = k
  · subst hk
    rw [List.getElem?_set_self hi, h]
    rfl
  · rw [List.getElem?_set_ne hk]

/-- A loop whose pull has ended is told nothing. -/
theorem flags_closePull (i : Nat) (p : Pull) (c : Coordinator) :
    flags (c.closePull i p).loops = flags c.loops := by
  unfold closePull
  dsimp only
  split
  next =>
    refine List.ext_getElem? fun k => ?_
    rw [flags_getElem?, flags_getElem?, List.getElem?_modify, Option.map_eq_map, Option.map_map]
    congr 1
    funext l
    show (if p.loop = k then { l with busy := false } else l).cancelled = l.cancelled
    split
    next => rfl
    next => rfl
  next => rfl

theorem length_flags (loops : List PollLoop) : (flags loops).length = loops.length :=
  List.length_map ..

theorem length_stopPolling (c : Coordinator) : c.stopPolling.loops.length = c.loops.length := by
  unfold stopPolling
  dsimp only
  split
  next => exact List.length_modify ..
  next => rfl

/-- The loop that polls is there, and was not told to end. -/
def LoopLives (c : Coordinator) : Prop := ∀ i, c.poll = some i → (flags c.loops)[i]? = some false

theorem LoopLives.of_eq {c c' : Coordinator} (h : LoopLives c) (poll : c'.poll = c.poll)
    (same : flags c'.loops = flags c.loops) : LoopLives c' := by
  intro i hi
  rw [same]
  exact h i (poll ▸ hi)

/-- Where nothing polls, no loop need live. -/
theorem LoopLives.of_none {c : Coordinator} (poll : c.poll = none) : LoopLives c := by
  intro i hi
  rw [poll] at hi
  cases hi

theorem LoopLives.handling {c c' : Coordinator} (h : LoopLives c) (step : Handling c c') :
    LoopLives c' := by
  cases step with
  | quiet => exact h
  | pulling => exact h
  | ending => exact .of_none rfl
  | leaving next => exact .of_none rfl
  | entering next =>
      intro i hi
      -- the loop that polls now is the last one
      have last : i = (c.publish next).stopPolling.loops.length := (Option.some.inj hi).symm
      subst last
      show (flags ((c.publish next).stopPolling.loops ++ [_]))[_]? = some false
      rw [flags_getElem?, List.getElem?_append_right (Nat.le_refl _), Nat.sub_self]
      rfl
  | staying => exact h

theorem LoopLives.change {a : Action} {c c' : Coordinator} (h : LoopLives c)
    (step : Change a c c') : LoopLives c' := by
  cases step with
  | aside => exact h
  | sent => exact h
  | handled m rest =>
      have h' : LoopLives { c with inbox := rest } := h
      exact h'.handling (handle_handling m _)
  | begun i l loop =>
      refine h.of_eq rfl ?_
      show flags (c.loops.set i _) = flags c.loops
      exact flags_set loop c.nextDue true
  | ended i p => exact h.of_eq rfl (flags_closePull i p c)
  | staged => exact h
  | reported i p => exact h.of_eq rfl (flags_closePull i p c)
  | stopped running =>
      refine .of_none ?_
      simp [shutdown, running, stopPolling]

theorem run_loopLives (interval : Nat) (actions : List Action) :
    LoopLives ((start interval).run actions) := by
  refine run_induction (fun c a h => h.change (act_change a c)) ?_ actions
  exact .of_none rfl

/-- **The loop that polls is the one loop that was not told to end.** -/
theorem PollingInv.poll_iff {c : Coordinator} (h : PollingInv c) (lives : LoopLives c) (i : Nat) :
    c.poll = some i ↔ ∃ l, c.loops[i]? = some l ∧ l.cancelled = false := by
  constructor
  · intro hi
    have flag := lives i hi
    rw [flags_getElem?, Option.map_eq_some_iff] at flag
    exact flag
  · rintro ⟨l, loop, live⟩
    exact (h.live i l loop live).1

/-- A session polls exactly while its state is Connected and its work goes on. -/
theorem PollingInv.poll_isSome_iff {c : Coordinator} (h : PollingInv c) :
    c.poll.isSome = true ↔ c.state.value = .connected ∧ c.stopped = false := by
  rw [h.active, Bool.and_eq_true, ConnectionState.isConnected_iff, Bool.not_eq_true']

/-! ## §2. Entering Connected. -/

/-- The step enters Connected from another state. -/
def enters (a : Action) (c : Coordinator) : Bool :=
  !c.state.value.isConnected && (c.act a).state.value.isConnected

/-- How often a run enters Connected from another state. -/
def entries : List Action → Coordinator → Nat
  | [], _ => 0
  | a :: actions, c => (c.enters a).toNat + entries actions (c.act a)

/-- A message starts a loop if it makes the state Connected, and none otherwise. -/
theorem Handling.loops {c c' : Coordinator} (step : Handling c c') :
    c'.loops.length
      = c.loops.length + (!c.state.value.isConnected && c'.state.value.isConnected).toNat := by
  cases step with
  | quiet => simp
  | pulling => simp [startPull]
  | ending => simp [terminate, publish, length_stopPolling, ConnectionState.isConnected]
  | leaving next isNot => simp [publish, length_stopPolling, isNot]
  | entering next was now =>
      simp only [startPolling, List.length_append, length_stopPolling, was]
      simp [publish, stopPolling, now]
  | staying next same => simp [publish, same]

/-- **A step starts one loop if it enters Connected, and none otherwise.** -/
theorem act_loops (a : Action) (c : Coordinator) :
    (c.act a).loops.length = c.loops.length + (c.enters a).toNat := by
  have step := act_change a c
  unfold enters
  generalize c.act a = c' at step
  have unchanged : ∀ {n : Nat}, n = c.loops.length → n = c.loops.length
      + (!c.state.value.isConnected && c.state.value.isConnected).toNat := by
    intro n hn
    simpa using hn
  cases step with
  | aside => exact unchanged rfl
  | sent => exact unchanged rfl
  | handled m rest => exact (handle_handling m { c with inbox := rest }).loops
  | begun i l => exact unchanged (by simp [startPull])
  | ended i p =>
      refine unchanged ?_
      rw [← length_flags, flags_closePull, length_flags]
  | staged => exact unchanged rfl
  | reported i p =>
      refine unchanged ?_
      show (c.closePull i p).loops.length = c.loops.length
      rw [← length_flags, flags_closePull, length_flags]
  | stopped running =>
      have state : c.shutdown.state = c.state := by simp [shutdown, running, stopPolling]
      rw [state]
      refine unchanged ?_
      simp [shutdown, running, length_stopPolling]

/-- **A run starts as many loops as it enters Connected.** -/
theorem run_loops (actions : List Action) (c : Coordinator) :
    (c.run actions).loops.length = c.loops.length + c.entries actions := by
  induction actions generalizing c with
  | nil => rfl
  | cons a actions ih => rw [run_cons, ih, act_loops, entries, Nat.add_assoc]

/-- A callback that names the state Connected again changes nothing. -/
theorem onCallback_connected {c : Coordinator} (connected : c.state.value = .connected) :
    c.onCallback .connected = c := by
  have same : c.publish .connected = c := by
    simp [publish, Channel.publishIfNew, connected]
  show c.move .connected = c
  rcases move_cases .connected c with ⟨-, isNot, -⟩ | ⟨was, -, -⟩ | ⟨-, e⟩
  · cases isNot
  · rw [connected] at was
    cases was
  · exact e.trans same

/-! ## §3. Pulls. -/

/-- The state is Connected, and the work goes on. -/
def IsLive (c : Coordinator) : Prop := c.state.value = .connected ∧ c.stopped = false

/-- The engine is being asked for the pull of this number. -/
def Asking (number : Nat) (c : Coordinator) : Prop :=
  ∃ p ∈ c.pulls, p.number = number ∧ p.stage = .asked

theorem PollingInv.isLive {c : Coordinator} (h : PollingInv c) {i : Nat} (poll : c.poll = some i) :
    IsLive c := by
  refine h.poll_isSome_iff.mp ?_
  rw [poll]
  rfl

theorem PollingInv.isLive_of_loop {c : Coordinator} (h : PollingInv c) {i : Nat}
    (live : c.loopCancelled i = false) : IsLive c := by
  unfold loopCancelled at live
  split at live
  next l loop => exact h.isLive (h.live i l loop live).1
  next => cases live

theorem Asking.of_closePull {c : Coordinator} {i : Nat} {p : Pull} {number : Nat}
    (h : (c.closePull i p).Asking number) : c.Asking number := by
  obtain ⟨q, hq, hn, hs⟩ := h
  exact ⟨q, List.mem_of_mem_eraseIdx hq, hn, hs⟩

theorem Handling.begins {c c' : Coordinator} (inv : PollingInv c) (step : Handling c c') :
    (c.started < c'.started → IsLive c)
      ∧ ∀ number, c'.Asking number → c.Asking number ∨ IsLive c := by
  cases step with
  | quiet => exact ⟨fun h => absurd h (Nat.lt_irrefl _), fun _ h => .inl h⟩
  | pulling i poll => exact ⟨fun _ => inv.isLive poll, fun _ _ => .inr (inv.isLive poll)⟩
  | ending => exact ⟨fun h => absurd h (Nat.lt_irrefl _), fun _ h => .inl h⟩
  | leaving => exact ⟨fun h => absurd h (Nat.lt_irrefl _), fun _ h => .inl h⟩
  | entering => exact ⟨fun h => absurd h (Nat.lt_irrefl _), fun _ h => .inl h⟩
  | staying => exact ⟨fun h => absurd h (Nat.lt_irrefl _), fun _ h => .inl h⟩

/-- **A pull is started, and the engine asked for it, only while the state is
Connected and the work goes on.** -/
theorem Change.begins {a : Action} {c c' : Coordinator} (inv : PollingInv c) (step : Change a c c') :
    (c.started < c'.started → IsLive c)
      ∧ ∀ number, c'.Asking number → c.Asking number ∨ IsLive c := by
  cases step with
  | aside => exact ⟨fun h => absurd h (Nat.lt_irrefl _), fun _ h => .inl h⟩
  | sent => exact ⟨fun h => absurd h (Nat.lt_irrefl _), fun _ h => .inl h⟩
  | handled m rest =>
      have inv' : PollingInv { c with inbox := rest } := ⟨inv.live, inv.active⟩
      have begins := (handle_handling m { c with inbox := rest }).begins inv'
      exact ⟨begins.1, begins.2⟩
  | begun i l loop live =>
      have now : IsLive c := inv.isLive (inv.live i l loop live).1
      exact ⟨fun _ => now, fun _ _ => .inr now⟩
  | ended i p =>
      exact ⟨fun h => absurd h (Nat.lt_irrefl _), fun _ h => .inl h.of_closePull⟩
  | staged i p stage pull live =>
      exact ⟨fun h => absurd h (Nat.lt_irrefl _), fun _ _ => .inr (inv.isLive_of_loop live)⟩
  | reported i p =>
      refine ⟨fun h => absurd h (Nat.lt_irrefl _), fun number h => .inl ?_⟩
      have h' : (c.closePull i p).Asking number := h
      exact h'.of_closePull
  | stopped running =>
      simp only [shutdown, running, Bool.false_eq_true, if_false]
      exact ⟨fun h => absurd h (Nat.lt_irrefl _), fun _ h => .inl h⟩

/-- A request for a pull is answered by whether a loop polls. -/
theorem onRefresh_reply (c : Coordinator) : c.onRefresh.1 = .ok (.refresh c.poll.isSome) := by
  unfold onRefresh
  split
  next none => rw [none]; rfl
  next i some => rw [some]; rfl

/-! ## §4. The main result. -/

/-- What holds of polling in a state of a session. -/
structure PollsWhileConnected (c : Coordinator) : Prop where
  /-- A loop polls exactly while the state is Connected and the work goes on. -/
  active : c.poll.isSome = true ↔ c.state.value = .connected ∧ c.stopped = false
  /-- The loop that polls is the one that was not told to end. -/
  live : ∀ i, c.poll = some i ↔ ∃ l, c.loops[i]? = some l ∧ l.cancelled = false
  /-- At most one loop was not told to end. -/
  unique : ∀ (i k : Nat) (l l' : PollLoop), c.loops[i]? = some l → c.loops[k]? = some l' →
    l.cancelled = false → l'.cancelled = false → i = k
  /-- Pulls are started, on time or on request, only while Connected. -/
  started : ∀ a, c.started < (c.act a).started → IsLive c
  /-- The engine is asked for a pull only while Connected. -/
  asked : ∀ a number, (c.act a).Asking number → c.Asking number ∨ IsLive c
  /-- A step that enters Connected starts one loop, and any other none. -/
  loops : ∀ a, (c.act a).loops.length = c.loops.length + (c.enters a).toNat
  /-- A connected callback while Connected changes nothing: no loop is started
  or told to end, and the epoch of the pulls under way remains. -/
  repeated : ∀ rest, c.inbox = .callback .connected :: rest → c.state.value = .connected →
    c.act .handleNext = { c with inbox := rest }
  /-- A request for a pull that is handled answers whether the state is
  Connected. -/
  refresh : ∀ rest, c.inbox = .command .refresh :: rest →
    c.handleNext.1 = some (.ok (.refresh c.state.value.isConnected))
  /-- When the work has ended, a request for a pull is refused. -/
  refused : c.stopped = true → c.submit .refresh = (.error .shutDown, c)

/-- **A session polls exactly while it is Connected, until its work is ended**:
by one loop, which is started when Connected is entered. -/
theorem polls_exactly_while_connected (interval : Nat) (actions : List Action) :
    PollsWhileConnected ((start interval).run actions)
      ∧ ((start interval).run actions).loops.length = (start interval).entries actions := by
  have inv := run_pollingInv interval actions
  have lives := run_loopLives interval actions
  have drained := run_drained interval actions
  refine ⟨?_, (run_loops actions (start interval)).trans (Nat.zero_add _)⟩
  generalize (start interval).run actions = c at inv lives drained
  have begins := fun a => (act_change a c).begins inv
  refine ⟨inv.poll_isSome_iff, inv.poll_iff lives, ?_, fun a => (begins a).1, fun a => (begins a).2,
    fun a => act_loops a c, ?_, ?_, ?_⟩
  · intro i k l l' hi hk li lk
    have ki := (inv.live k l' hk lk).1
    rw [(inv.live i l hi li).1] at ki
    exact Option.some.inj ki
  · intro rest next connected
    have connected' : { c with inbox := rest }.state.value = .connected := connected
    rw [handleNext_cons next]
    exact onCallback_connected connected'
  · intro rest next
    have running := drained.running next
    have reply : c.handleNext.1 = some ({ c with inbox := rest }.onRefresh.1) := by
      simp only [handleNext, next]
      rfl
    have polls : c.poll.isSome = c.state.value.isConnected := by
      rw [inv.active, running, Bool.not_false, Bool.and_true]
    rw [reply, onRefresh_reply, ← polls]
  · intro stopped
    simp [submit, Request.prepare, stopped]

/-- A session that is shut down while Connected stays in that state, and polls
no more: its loop is told to end, and a request for a pull is refused. -/
theorem connected_without_polling_after_shutdown :
    let c := (start 5000).run [.callback .connected, .handleNext, .shutdown]
    c.state.value = .connected ∧ c.poll = none ∧ flags c.loops = [true]
      ∧ (c.submit .refresh).1 = .error .shutDown := by
  exact ⟨rfl, rfl, rfl, rfl⟩

/-- A callback that is repeated starts no second loop, and a detour through
another state does. -/
example :
    flags ((start 5000).run
      [.callback .connected, .handleNext, .callback .connected, .handleNext, .callback .registered,
        .handleNext, .callback .connected, .handleNext]).loops = [true, false] := rfl

end TunnelControl.Coordinator
