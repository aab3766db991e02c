/-
  TunnelControl.Proofs.Session.PullPeriod
  ───────────────────────────────────────
  **A PULL COUNTS IN THE CONNECTED PERIOD IT WAS STARTED IN.**

  A pull and its result carry the epoch of their start.  As long as the state
  stays Connected the epoch stays, and every way out of Connected ends it for
  good; so the one test of the epoch, made when the result is handled, decides
  whether the state was Connected all the time since.

    • `KeepsPeriod`    — the epoch and the state move together,
    • `Carries`        — the pulls and results that are under way,
    • `ConnectedSince` — Connected ever since a pull was started,
    • `pulled_snapshot_counts_iff_connected_throughout`.
-/
import Mathlib.Data.List.Induction
import TunnelControl.Proofs.Session.Polling

namespace TunnelControl.Coordinator

/-! ## §1. The epoch and the state. -/

/-- The epoch never goes back; while the state is Connected it stays, and the
step that leaves Connected, or ends all work, ends the epoch. -/
structure KeepsPeriod (c c' : Coordinator) : Prop where
  /-- The epoch never goes back. -/
  le : c.epoch ≤ c'.epoch
  /-- Connected before the step. -/
  connected : c.state.value.isConnected = true →
    (c'.epoch = c.epoch ∧ c'.state.value.isConnected = true)
      ∨ (c.epoch < c'.epoch ∧ (c'.state.value.isConnected = false ∨ c'.stopped = true))

theorem KeepsPeriod.of_eq {c c' : Coordinator} (epoch : c'.epoch = c.epoch)
    (state : c'.state.value.isConnected = c.state.value.isConnected) : KeepsPeriod c c' where
  le := Nat.le_of_eq epoch.symm
  connected := fun h => .inl ⟨epoch, state.trans h⟩

theorem Handling.keepsPeriod {c c' : Coordinator} (step : Handling c c') : KeepsPeriod c c' := by
  cases step with
  | quiet => exact .of_eq rfl rfl
  | pulling => exact .of_eq rfl rfl
  | ending =>
      have left : c.terminate.state.value.isConnected = false := by
        simp [terminate, publish, ConnectionState.isConnected]
      exact ⟨Nat.le_succ _, fun _ => .inr ⟨Nat.lt_succ_self _, .inl left⟩⟩
  | leaving next isNot =>
      have left : (c.stopPolling.publish next).state.value.isConnected = false := by
        simp [publish, isNot]
      exact ⟨Nat.le_succ _, fun _ => .inr ⟨Nat.lt_succ_self _, .inl left⟩⟩
  | entering next was =>
      refine ⟨Nat.le_succ _, fun h => ?_⟩
      rw [was] at h
      cases h
  | staying next same => exact .of_eq rfl (by simp [publish, same])

theorem Change.keepsPeriod {a : Action} {c c' : Coordinator} (step : Change a c c') :
    KeepsPeriod c c' := by
  cases step with
  | aside => exact .of_eq rfl rfl
  | sent => exact .of_eq rfl rfl
  | handled m rest =>
      have hk := (handle_handling m { c with inbox := rest }).keepsPeriod
      exact ⟨hk.le, hk.connected⟩
  | begun => exact .of_eq rfl rfl
  | ended => exact .of_eq rfl rfl
  | staged => exact .of_eq rfl rfl
  | reported => exact .of_eq rfl rfl
  | stopped running =>
      have e : c.shutdown.epoch = c.epoch + 1 ∧ c.shutdown.stopped = true := by
        simp [shutdown, running, stopPolling]
      exact ⟨by omega, fun _ => .inr ⟨by omega, .inr e.2⟩⟩

/-! ## §2. Pulls and results under way. -/

/-- A pull of this number and epoch, or its result, is under way. -/
def Carries (number epoch : Nat) (c : Coordinator) : Prop :=
  (∃ p ∈ c.pulls, p.number = number ∧ p.epoch = epoch)
    ∨ ∃ snapshot, Message.pulled number epoch snapshot ∈ c.inbox

/-- The pull of this number and epoch is started by a step within Connected. -/
structure Starts (number epoch : Nat) (c c' : Coordinator) : Prop where
  /-- It gets the next number. -/
  number_eq : number = c.started
  /-- It belongs to the epoch of the moment. -/
  epoch_eq : epoch = c.epoch
  /-- The next one gets another. -/
  started_eq : c'.started = c.started + 1
  /-- The step leaves the epoch. -/
  epoch_kept : c'.epoch = c.epoch
  /-- The state is Connected. -/
  connected : c'.state.value.isConnected = true

/-- The state of a session that polls is Connected. -/
theorem PollingInv.connected {c : Coordinator} (h : PollingInv c) {i : Nat}
    (poll : c.poll = some i) : c.state.value.isConnected = true := by
  have hact := h.active
  rw [poll, Option.isSome_some, eq_comm, Bool.and_eq_true] at hact
  exact hact.1

theorem carries_startPull {c : Coordinator} {loop epoch' : Nat} {timed : Bool} {stage : PullStage}
    {number epoch : Nat} (h : (c.startPull loop epoch' timed stage).Carries number epoch) :
    c.Carries number epoch ∨ (number = c.started ∧ epoch = epoch') := by
  rcases h with ⟨p, hp, hn, he⟩ | h
  · rcases List.mem_append.mp hp with hp | hp
    · exact .inl (.inl ⟨p, hp, hn, he⟩)
    · rw [List.mem_singleton] at hp
      subst hp
      exact .inr ⟨hn.symm, he.symm⟩
  · exact .inl (.inr h)

theorem carries_closePull {c : Coordinator} {i : Nat} {p : Pull} {number epoch : Nat}
    (h : (c.closePull i p).Carries number epoch) : c.Carries number epoch := by
  rcases h with ⟨q, hq, hn, he⟩ | h
  · exact .inl ⟨q, List.mem_of_mem_eraseIdx hq, hn, he⟩
  · exact .inr h

theorem Handling.carries {c c' : Coordinator} (inv : PollingInv c) (step : Handling c c')
    {number epoch : Nat} (h : c'.Carries number epoch) :
    c.Carries number epoch ∨ Starts number epoch c c' := by
  cases step with
  | quiet => exact .inl h
  | pulling i poll =>
      rcases carries_startPull h with h | ⟨hn, he⟩
      · exact .inl h
      · exact .inr ⟨hn, he, rfl, rfl, inv.connected poll⟩
  | ending => exact .inl h
  | leaving => exact .inl h
  | entering => exact .inl h
  | staying => exact .inl h

/-- **What is under way was so before, or is started by this step.** -/
theorem Change.carries {a : Action} {c c' : Coordinator} (inv : PollingInv c) (step : Change a c c')
    {number epoch : Nat} (h : c'.Carries number epoch) :
    c.Carries number epoch ∨ Starts number epoch c c' := by
  cases step with
  | aside => exact .inl h
  | sent m notPulled =>
      rcases h with h | ⟨s, hs⟩
      · exact .inl (.inl h)
      · rcases List.mem_append.mp hs with hs | hs
        · exact .inl (.inr ⟨s, hs⟩)
        · rw [List.mem_singleton] at hs
          exact absurd hs.symm (notPulled number epoch s)
  | handled m rest _ next =>
      have inv' : PollingInv { c with inbox := rest } := ⟨inv.live, inv.active⟩
      rcases (handle_handling m _).carries inv' h with (h | ⟨s, hs⟩) | h
      · exact .inl (.inl h)
      · exact .inl (.inr ⟨s, by rw [next]; exact List.mem_cons_of_mem m hs⟩)
      · exact .inr ⟨h.number_eq, h.epoch_eq, h.started_eq, h.epoch_kept, h.connected⟩
  | begun i l loop live =>
      obtain ⟨poll, hl⟩ := inv.live i l loop live
      rcases carries_startPull h with h | ⟨hn, he⟩
      · exact .inl h
      · exact .inr ⟨hn, he.trans hl, rfl, rfl, inv.connected poll⟩
  | ended i p => exact .inl (carries_closePull h)
  | staged i p stage pull =>
      rcases h with ⟨q, hq, hn, he⟩ | h
      · rcases List.mem_or_eq_of_mem_set hq with hq | hq
        · exact .inl (.inl ⟨q, hq, hn, he⟩)
        · subst hq
          exact .inl (.inl ⟨p, List.mem_of_getElem? pull, hn, he⟩)
      · exact .inl (.inr h)
  | reported i p snapshot pull =>
      rcases h with h | ⟨s, hs⟩
      · have h' : (c.closePull i p).Carries number epoch := .inl h
        exact .inl (carries_closePull h')
      · rcases List.mem_append.mp hs with hs | hs
        · exact .inl (.inr ⟨s, hs⟩)
        · -- the result was a pull before
          rw [List.mem_singleton] at hs
          injection hs with hn he
          exact .inl (.inl ⟨p, List.mem_of_getElem? pull, hn.symm, he.symm⟩)
  | stopped running =>
      simp only [shutdown, running, Bool.false_eq_true, if_false] at h
      rcases h with h | ⟨s, hs⟩
      · exact .inl (.inl h)
      · cases hs

theorem Handling.started_le {c c' : Coordinator} (step : Handling c c') :
    c.started ≤ c'.started := by
  cases step with
  | pulling => exact Nat.le_succ _
  | quiet => exact Nat.le_refl _
  | ending => exact Nat.le_refl _
  | leaving => exact Nat.le_refl _
  | entering => exact Nat.le_refl _
  | staying => exact Nat.le_refl _

theorem Change.started_le {a : Action} {c c' : Coordinator} (step : Change a c c') :
    c.started ≤ c'.started := by
  cases step with
  | aside => exact Nat.le_refl _
  | sent => exact Nat.le_refl _
  | handled m rest => exact (handle_handling m { c with inbox := rest }).started_le
  | begun => exact Nat.le_succ _
  | ended => exact Nat.le_refl _
  | staged => exact Nat.le_refl _
  | reported => exact Nat.le_refl _
  | stopped running => simp [shutdown, running, stopPolling]

theorem Change.stopped_mono {a : Action} {c c' : Coordinator} (step : Change a c c')
    (h : c.stopped = true) : c'.stopped = true := by
  cases step with
  | aside => exact h
  | sent => exact h
  | handled m rest => exact (handle_handling m { c with inbox := rest }).stopped_eq.trans h
  | begun => exact h
  | ended => exact h
  | staged => exact h
  | reported => exact h
  | stopped => simp [shutdown, h]

/-- Pulls are only ever added to those that were started. -/
theorem run_started_le (actions : List Action) (c : Coordinator) :
    c.started ≤ (c.run actions).started := by
  induction actions generalizing c with
  | nil => exact Nat.le_refl _
  | cons a actions ih => exact Nat.le_trans (act_change a c).started_le (ih (c.act a))

/-! ## §3. Connected since a pull was started. -/

/-- In the run of `actions`, the state has been Connected at every moment
since the pull of this number was started. -/
def ConnectedSince (interval : Nat) (actions : List Action) (number : Nat) : Prop :=
  ∀ k ≤ actions.length, number < ((start interval).run (actions.take k)).started →
    ((start interval).run (actions.take k)).state.value = .connected

/-- One more step: Connected since then, and still so if the pull was started. -/
theorem connectedSince_concat {interval : Nat} {actions : List Action} {a : Action} {number : Nat} :
    ConnectedSince interval (actions ++ [a]) number ↔
      ConnectedSince interval actions number
        ∧ (number < ((start interval).run (actions ++ [a])).started →
            ((start interval).run (actions ++ [a])).state.value = .connected) := by
  constructor
  · intro h
    refine ⟨fun k hk => ?_, ?_⟩
    · have hk' := h k (by simp; omega)
      rwa [List.take_append_of_le_length hk] at hk'
    · have hk' := h (actions ++ [a]).length (Nat.le_refl _)
      rwa [List.take_length] at hk'
  · rintro ⟨before, now⟩ k hk
    -- an earlier moment, or the last one
    by_cases hlast : k ≤ actions.length
    · rw [List.take_append_of_le_length hlast]
      exact before k hlast
    · have e : (actions ++ [a]).take k = actions ++ [a] :=
        List.take_of_length_le (by simp; omega)
      rw [e]
      exact now

/-- A pull that is not started yet has not seen another state. -/
theorem connectedSince_of_started_le {interval : Nat} {actions : List Action} {number : Nat}
    (h : ((start interval).run actions).started ≤ number) :
    ConnectedSince interval actions number := by
  intro k _ hlt
  have hle := run_started_le (actions.drop k) ((start interval).run (actions.take k))
  rw [← run_append, List.take_append_drop] at hle
  omega

/-- The state is Connected now, if it was since a pull that was started. -/
theorem ConnectedSince.now {interval : Nat} {actions : List Action} {number : Nat}
    (h : ConnectedSince interval actions number)
    (started : number < ((start interval).run actions).started) :
    ((start interval).run actions).state.value = .connected := by
  have hnow := h actions.length (Nat.le_refl _)
  rw [List.take_length] at hnow
  exact hnow started

/-! ## §4. The epoch tells. -/

/-- What the epoch of a pull tells in the run of `actions`: it is the one of
the moment exactly if the state was Connected since; after shutdown no epoch
tells anything any more. -/
structure EpochTells (interval : Nat) (actions : List Action) (number epoch : Nat) : Prop where
  /-- The pull was started. -/
  started : number < ((start interval).run actions).started
  /-- The two cases. -/
  tells : (epoch = ((start interval).run actions).epoch ∧ ConnectedSince interval actions number)
    ∨ (epoch < ((start interval).run actions).epoch
        ∧ (¬ ConnectedSince interval actions number
            ∨ ((start interval).run actions).stopped = true))

theorem EpochTells.concat {interval : Nat} {actions : List Action} {number epoch : Nat}
    (h : EpochTells interval actions number epoch) (a : Action) :
    EpochTells interval (actions ++ [a]) number epoch := by
  have step := act_change a ((start interval).run actions)
  rw [← run_concat] at step
  have started := Nat.lt_of_lt_of_le h.started step.started_le
  refine ⟨started, ?_⟩
  rcases h.tells with ⟨he, since⟩ | ⟨he, lost⟩
  · -- in its epoch: the step keeps Connected and the epoch, or ends both
    have now := ConnectionState.isConnected_iff.mpr (since.now h.started)
    rcases step.keepsPeriod.connected now with ⟨he', now'⟩ | ⟨he', gone⟩
    · exact .inl ⟨he.trans he'.symm, connectedSince_concat.mpr
        ⟨since, fun _ => ConnectionState.isConnected_iff.mp now'⟩⟩
    · refine .inr ⟨he ▸ he', ?_⟩
      rcases gone with left | stopped
      · refine .inl fun since' => ?_
        rw [since'.now started] at left
        cases left
      · exact .inr stopped
  · -- an epoch that has passed does not come back
    refine .inr ⟨Nat.lt_of_lt_of_le he step.keepsPeriod.le, ?_⟩
    rcases lost with left | stopped
    · exact .inl fun since => left (connectedSince_concat.mp since).1
    · exact .inr (step.stopped_mono stopped)

/-- A pull that is started belongs to the epoch of the moment. -/
theorem EpochTells.of_starts {interval : Nat} {actions : List Action} {a : Action}
    {number epoch : Nat}
    (h : Starts number epoch ((start interval).run actions)
      ((start interval).run (actions ++ [a]))) :
    EpochTells interval (actions ++ [a]) number epoch := by
  have before : ConnectedSince interval actions number :=
    connectedSince_of_started_le (Nat.le_of_eq h.number_eq.symm)
  have now := ConnectionState.isConnected_iff.mp h.connected
  refine ⟨?_, .inl ⟨h.epoch_eq.trans h.epoch_kept.symm, ?_⟩⟩
  · rw [h.started_eq, h.number_eq]
    exact Nat.lt_succ_self _
  · exact connectedSince_concat.mpr ⟨before, fun _ => now⟩

/-- **The epoch of whatever is under way tells whether it counts**, in every
run. -/
theorem epochTells_of_carries (interval : Nat) (actions : List Action) {number epoch : Nat}
    (h : ((start interval).run actions).Carries number epoch) :
    EpochTells interval actions number epoch := by
  induction actions using List.reverseRecOn generalizing number epoch with
  | nil =>
      rcases h with ⟨p, hp, -⟩ | ⟨s, hs⟩
      · cases hp
      · cases hs
  | append_singleton actions a ih =>
      -- what the last step leaves under way was so before, or starts with it
      have step := act_change a ((start interval).run actions)
      rw [← run_concat] at step
      rcases step.carries (run_pollingInv interval actions) h with old | new
      · exact (ih old).concat a
      · exact .of_starts new

/-! ## §5. The result is handled. -/

/-- Views change only when a message is handled. -/
theorem Change.action_of_views_ne {a : Action} {c c' : Coordinator} (step : Change a c c')
    (h : c'.views ≠ c.views) : a = .handleNext := by
  rcases step.observed with ⟨-, same⟩ | ⟨m, rest, action, -⟩
  · exact absurd same h
  · exact action

theorem handleNext_pulled {c : Coordinator} {number epoch : Nat} {snapshot : Option Snapshot}
    {rest : List Message} (next : c.inbox = .pulled number epoch snapshot :: rest) :
    c.act .handleNext = { c with inbox := rest }.onPulled epoch snapshot := by
  simp only [act, handleNext, next]
  rfl

/-- **A pulled snapshot counts if and only if the state has been Connected at
every moment since its pull was started.**  No other step than the handling of
the result lets it touch the views. -/
theorem pulled_snapshot_counts_iff_connected_throughout (interval : Nat) (actions : List Action) :
    let c := (start interval).run actions
    (∀ a, (c.act a).views ≠ c.views → a = .handleNext)
      ∧ ∀ number epoch snapshot rest, c.inbox = .pulled number epoch snapshot :: rest →
          number < c.started
          ∧ (ConnectedSince interval actions number →
              (c.act .handleNext).views = snapshot.elim c.views fun s => c.views.apply c.clock s)
          ∧ (¬ ConnectedSince interval actions number →
              (c.act .handleNext).views = c.views) := by
  intro c
  refine ⟨fun a h => (act_change a c).action_of_views_ne h, ?_⟩
  intro number epoch snapshot rest next
  have carried : c.Carries number epoch := .inr ⟨snapshot, by rw [next]; exact List.mem_cons_self⟩
  have epochs := epochTells_of_carries interval actions carried
  have running : c.stopped = false := (run_drained interval actions).running next
  rw [handleNext_pulled next]
  refine ⟨epochs.started, fun since => ?_, fun lost => ?_⟩
  · -- the epoch is the one of the moment, for otherwise the state was left
    have current : epoch = c.epoch := by
      rcases epochs.tells with ⟨he, -⟩ | ⟨-, left | stopped⟩
      · exact he
      · exact absurd since left
      · rw [running] at stopped
        cases stopped
    have now : c.state.value.isConnected = true :=
      ConnectionState.isConnected_iff.mpr (since.now epochs.started)
    cases snapshot with
    | none => simp [onPulled]
    | some s => simp [onPulled, current, now, applySnapshot]
  · -- the epoch has passed, for otherwise the state was Connected since
    have stale : epoch < c.epoch := by
      rcases epochs.tells with ⟨-, since⟩ | ⟨he, -⟩
      · exact absurd since lost
      · exact he
    simp [onPulled, Nat.ne_of_lt stale]

/-- A pull has its answer when the session ends, and reports it when the state
is Connected again: its result is handled in a later period, and dropped. -/
theorem pull_of_earlier_period_is_dropped :
    let c := (start 5000).run
      [.callback .connected, .handleNext, .beginTimed 0, .endPull 0 (some (.status .blank)),
        .callback .terminated, .handleNext, .callback .connected, .handleNext, .report 0]
    c.inbox.length = 1 ∧ c.state.value = .connected
      ∧ (c.act .handleNext).views.lastUpdate = c.views.lastUpdate := by
  intro c
  have next : c.inbox = [.pulled 0 1 (some (.status .blank))] := rfl
  have counts := (pulled_snapshot_counts_iff_connected_throughout 5000 _).2 _ _ _ _ next
  refine ⟨by rw [next]; rfl, rfl, congrArg Views.lastUpdate (counts.2.2 ?_)⟩
  intro since
  -- after six steps the session has ended
  have ended := since 6 (by decide) (by decide)
  cases ended

end TunnelControl.Coordinator
