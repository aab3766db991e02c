/-
  TunnelControl.Proofs.Session.Polling
  ────────────────────────────────────
  **POLLING FOLLOWS THE CONNECTION STATE.**

  A loop that was not told to end is the one that polls, it carries the epoch
  of the moment, and there is one exactly while the state is Connected.

    • `PollingInv`        — what holds of loops,
    • `PollingInv.change` — every step keeps it,
    • `run_pollingInv`    — it holds in every run,
    • `Drained`           — after shutdown nothing is queued.
-/
import TunnelControl.Proofs.Session.Steps

namespace TunnelControl.Coordinator

/-! ## §1. The invariant. -/

/-- Only the loop that polls is live, in the epoch of the moment, and there is
one exactly while the state is Connected. -/
structure PollingInv (c : Coordinator) : Prop where
  /-- A loop that was not told to end is the one that polls. -/
  live : ∀ (i : Nat) (l : PollLoop), c.loops[i]? = some l → l.cancelled = false →
    c.poll = some i ∧ l.epoch = c.epoch
  /-- A loop polls exactly while the state is Connected. -/
  active : c.poll.isSome = (c.state.value.isConnected && !c.stopped)

/-- Two rows of loops that differ at most in what is due and in progress. -/
def SameLoops (ls ls' : List PollLoop) : Prop :=
  ∀ (i : Nat) (l' : PollLoop), ls'[i]? = some l' →
    ∃ l, ls[i]? = some l ∧ l.cancelled = l'.cancelled ∧ l.epoch = l'.epoch

theorem sameLoops_refl (ls : List PollLoop) : SameLoops ls ls :=
  fun _ l' h => ⟨l', h, rfl, rfl⟩

theorem sameLoops_set {ls : List PollLoop} {i : Nat} {l : PollLoop} (h : ls[i]? = some l)
    (due : Option Nat) (busy : Bool) :
    SameLoops ls (ls.set i { l with due := due, busy := busy }) := by
  intro j l' hj
  by_cases hij : i = j
  · subst hij
    have hi : i < ls.length := (List.getElem?_eq_some_iff.mp h).1
    rw [List.getElem?_set_self hi] at hj
    injection hj with hj
    subst hj
    exact ⟨l, h, rfl, rfl⟩
  · rw [List.getElem?_set_ne hij] at hj
    exact ⟨l', hj, rfl, rfl⟩

theorem sameLoops_modify (ls : List PollLoop) (i : Nat) (busy : Bool) :
    SameLoops ls (ls.modify i fun l => { l with busy := busy }) := by
  intro j l' hj
  rw [List.getElem?_modify, Option.map_eq_map, Option.map_eq_some_iff] at hj
  obtain ⟨l, hl, rfl⟩ := hj
  refine ⟨l, hl, ?_, ?_⟩ <;> split <;> rfl

theorem PollingInv.of_sameLoops {c : Coordinator} (h : PollingInv c) {ls : List PollLoop}
    (hls : SameLoops c.loops ls) : PollingInv { c with loops := ls } where
  live := by
    intro i l' hi hl
    obtain ⟨l, hl', hc, he⟩ := hls i l' hi
    obtain ⟨hp, hle⟩ := h.live i l hl' (hc.trans hl)
    exact ⟨hp, he ▸ hle⟩
  active := h.active

theorem PollingInv.closePull {c : Coordinator} (h : PollingInv c) (i : Nat) (p : Pull) :
    PollingInv (c.closePull i p) := by
  have hls : SameLoops c.loops (c.closePull i p).loops := by
    unfold Coordinator.closePull
    dsimp only
    split
    next => exact sameLoops_modify c.loops p.loop false
    next => exact sameLoops_refl c.loops
  have h' := h.of_sameLoops hls
  exact ⟨h'.live, h'.active⟩

/-- No loop is live when polling has stopped. -/
theorem PollingInv.stopPolling_dead {c : Coordinator} (h : PollingInv c) {i : Nat} {l : PollLoop}
    (hi : c.stopPolling.loops[i]? = some l) : l.cancelled = true := by
  unfold Coordinator.stopPolling at hi
  cases hp : c.poll with
  | none =>
      simp only [hp] at hi
      cases hl : l.cancelled with
      | true => rfl
      | false =>
          -- a live loop would be polling
          have hlive := (h.live i l hi hl).1
          rw [hp] at hlive
          cases hlive
  | some k =>
      simp only [hp, cancelLoop] at hi
      rw [List.getElem?_modify, Option.map_eq_map, Option.map_eq_some_iff] at hi
      obtain ⟨l₀, hl₀, rfl⟩ := hi
      split
      next => rfl
      next hk =>
        cases hl : l₀.cancelled with
        | true => simp
        | false =>
            -- the one live loop is the one that is told to end
            have hlive := (h.live i l₀ hl₀ hl).1
            rw [hp] at hlive
            injection hlive with hlive
            exact absurd hlive hk

/-- Without polling, the invariant holds of a state other than Connected. -/
theorem PollingInv.stopPolling {c : Coordinator} (h : PollingInv c) {c' : Coordinator}
    (loops : c'.loops = c.stopPolling.loops) (poll : c'.poll = none)
    (idle : c'.state.value.isConnected = false ∨ c'.stopped = true) : PollingInv c' where
  live := by
    intro i l hi hl
    rw [loops] at hi
    rw [h.stopPolling_dead hi] at hl
    cases hl
  active := by
    rw [poll]
    rcases idle with hc | hs
    · simp [hc]
    · simp [hs]

/-- A loop that starts on entering Connected is the only live one. -/
theorem PollingInv.startPolling {c : Coordinator} (h : PollingInv c)
    {state : Channel ConnectionState} (connected : state.value.isConnected = true)
    (running : c.stopped = false) : PollingInv { c with state := state }.startPolling where
  live := by
    intro i l hi hl
    simp only [Coordinator.startPolling] at hi ⊢
    rw [List.getElem?_append] at hi
    split at hi
    next =>
      -- an older loop was told to end
      rw [h.stopPolling_dead hi] at hl
      cases hl
    next hge =>
      -- the new loop is the last one
      rw [List.getElem?_singleton] at hi
      split at hi
      next hz =>
        injection hi with hi
        subst hi
        refine ⟨congrArg some ?_, rfl⟩
        omega
      next => cases hi
  active := by
    simp [Coordinator.startPolling, Coordinator.stopPolling, connected, running]

/-- Shutdown ends all loops. -/
theorem PollingInv.shutdown {c : Coordinator} (running : c.stopped = false) :
    PollingInv c.shutdown where
  live := by
    intro i l hi hl
    simp only [Coordinator.shutdown, running, Bool.false_eq_true, if_false] at hi
    rw [List.getElem?_map, Option.map_eq_some_iff] at hi
    obtain ⟨l₀, -, rfl⟩ := hi
    cases hl
  active := by simp [Coordinator.shutdown, Coordinator.stopPolling, running]

/-! ## §2. Every step keeps it. -/

theorem PollingInv.handling {c c' : Coordinator} (h : PollingInv c) (running : c.stopped = false)
    (step : Handling c c') : PollingInv c' := by
  cases step with
  | quiet => exact ⟨h.live, h.active⟩
  | pulling => exact ⟨h.live, h.active⟩
  | ending =>
      have idle : c.terminate.state.value.isConnected = false := by
        simp [terminate, publish, ConnectionState.isConnected]
      exact h.stopPolling rfl rfl (.inl idle)
  | leaving next isNot => exact h.stopPolling rfl rfl (.inl (by simp [publish, isNot]))
  | entering next was now => exact h.startPolling (by simp [now]) running
  | staying next same => exact ⟨h.live, by simp [publish, same, h.active]⟩

/-- After shutdown nothing is queued. -/
def Drained (c : Coordinator) : Prop := c.stopped = true → c.inbox = []

theorem Handling.stopped_eq {c c' : Coordinator} (step : Handling c c') :
    c'.stopped = c.stopped := by
  cases step <;> rfl

/-- The session that handles a message is running. -/
theorem Drained.running {c : Coordinator} (h : Drained c) {m : Message} {rest : List Message}
    (next : c.inbox = m :: rest) : c.stopped = false := by
  cases hs : c.stopped with
  | false => rfl
  | true =>
      rw [h hs] at next
      cases next

theorem Drained.change {a : Action} {c c' : Coordinator} (h : Drained c)
    (step : Change a c c') : Drained c' := by
  cases step with
  | aside => exact h
  | sent m _ running =>
      intro hs
      rw [running] at hs
      cases hs
  | handled m rest _ next =>
      intro hs
      rw [(handle_handling m _).stopped_eq, h.running next] at hs
      cases hs
  | begun => exact h
  | ended => exact h
  | staged => exact h
  | reported i p snapshot _ running =>
      intro hs
      have hs' : c.stopped = true := hs
      rw [running] at hs'
      cases hs'
  | stopped running =>
      intro _
      simp [shutdown, running]

theorem PollingInv.change {a : Action} {c c' : Coordinator} (h : PollingInv c) (drained : Drained c)
    (step : Change a c c') : PollingInv c' := by
  cases step with
  | aside => exact ⟨h.live, h.active⟩
  | sent => exact ⟨h.live, h.active⟩
  | handled m rest _ next =>
      have h' : PollingInv { c with inbox := rest } := ⟨h.live, h.active⟩
      exact h'.handling (drained.running next) (handle_handling m _)
  | begun i l loop =>
      have h' := h.of_sameLoops (sameLoops_set loop c.nextDue true)
      exact ⟨h'.live, h'.active⟩
  | ended i p => exact h.closePull i p
  | staged => exact ⟨h.live, h.active⟩
  | reported i p =>
      have h' := h.closePull i p
      exact ⟨h'.live, h'.active⟩
  | stopped running => exact .shutdown running

/-! ## §3. Every run keeps it. -/

theorem pollingInv_start (interval : Nat) : PollingInv (start interval) where
  live := by
    intro i l hi
    cases hi
  active := rfl

theorem run_drained (interval : Nat) (actions : List Action) :
    Drained ((start interval).run actions) := by
  refine run_induction (fun c a h => h.change (act_change a c)) ?_ actions
  intro _
  rfl

/-- **The invariant of polling holds in every run.** -/
theorem run_pollingInv (interval : Nat) (actions : List Action) :
    PollingInv ((start interval).run actions) := by
  have both : Drained ((start interval).run actions)
      ∧ PollingInv ((start interval).run actions) := by
    refine run_induction (P := fun c => Drained c ∧ PollingInv c) ?_ ?_ actions
    · rintro c a ⟨drained, inv⟩
      exact ⟨drained.change (act_change a c), inv.change drained (act_change a c)⟩
    · exact ⟨run_drained interval [], pollingInv_start interval⟩
  exact both.2

end TunnelControl.Coordinator
