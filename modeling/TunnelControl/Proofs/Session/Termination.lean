/-
  TunnelControl.Proofs.Session.Termination
  ────────────────────────────────────────
  **NOTHING REMAINS TO BE SEEN OF A SESSION THAT HAS ENDED.**

  The views have three writers: pushed peer lists, timed pulls and requested
  pulls.  None of them writes while the state is Terminated, and the step that
  enters Terminated empties the views first.  The state is left only by a
  callback that names another one; a connect request does not do it.

    • `Views.IsBlank`         — nothing is seen,
    • `Message.reopens`       — the callbacks that leave Terminated,
    • `BlankAtEnd`            — the invariant,
    • `run_stays_terminated`  — a session that ended stays so meanwhile,
    • `views_blank_from_termination_until_reopened`.
-/
import TunnelControl.Proofs.Session.Steps

namespace TunnelControl

/-- There is no peer, no status and no time of an update. -/
structure Views.IsBlank (v : Views) : Prop where
  /-- The peer list is empty. -/
  peers : v.peers.value = []
  /-- There is no status. -/
  status : v.status.value = none
  /-- No update is remembered. -/
  lastUpdate : v.lastUpdate = none

theorem Views.clear_isBlank (v : Views) : v.clear.IsBlank := ⟨rfl, rfl, rfl⟩

/-- A callback that leads to a state other than Terminated. -/
def Message.reopens : Message → Bool
  | .callback .registered => true
  | .callback .connected => true
  | .callback (.authError ..) => true
  | _ => false

namespace Coordinator

/-! ## §1. One message. -/

/-- Views are blank once the state is Terminated. -/
def BlankAtEnd (c : Coordinator) : Prop := c.state.value = .terminated → c.views.IsBlank

/-- A move reaches its state. -/
theorem move_state (next : ConnectionState) (c : Coordinator) :
    (c.move next).state.value = next := by
  obtain ⟨epoch, poll, loops, e⟩ := move_frame next c
  rw [e]
  exact Channel.value_publishIfNew next c.state

/-- A request touches neither the state nor the views. -/
theorem onCommand_observed (command : Command) (c : Coordinator) :
    (c.onCommand command).2.state = c.state ∧ (c.onCommand command).2.views = c.views := by
  obtain ⟨active, provisioner, pulls, started, outbox, e⟩ := onCommand_frame command c
  rw [e]
  exact ⟨rfl, rfl⟩

theorem BlankAtEnd.onCallback {c : Coordinator} (h : BlankAtEnd c) (cb : Callback) :
    BlankAtEnd (c.onCallback cb) := by
  rcases onCallback_cases cb c with ⟨body, -, e⟩ | ⟨-, e⟩ | ⟨next, other, -, e⟩
  · rw [e]
    rcases onPeerUpdate_cases body c with e | ⟨open', ps, e⟩
    · rw [e]
      exact h
    · rw [e]
      -- a peer list counts only before the end
      intro ended
      exact absurd ended open'
  · rw [e]
    intro _
    exact c.views.clear_isBlank
  · rw [e]
    intro ended
    rw [move_state] at ended
    exact absurd ended other

/-- **Every message keeps the views of an ended session blank.** -/
theorem BlankAtEnd.handle {c : Coordinator} (h : BlankAtEnd c) (m : Message) :
    BlankAtEnd (c.handle m).2 := by
  cases m with
  | callback cb => exact h.onCallback cb
  | command command =>
      obtain ⟨state, views⟩ := onCommand_observed command c
      show BlankAtEnd (c.onCommand command).2
      unfold BlankAtEnd
      rw [state, views]
      exact h
  | pulled number epoch snapshot =>
      show BlankAtEnd (c.onPulled epoch snapshot)
      rcases onPulled_cases epoch snapshot c with e | ⟨-, connected, s, -, e⟩
      · rw [e]
        exact h
      · rw [e]
        intro ended
        -- a result counts only while the state is Connected
        have ended' : c.state.value = .terminated := ended
        rw [ended'] at connected
        cases connected

/-- **A message that does not reopen the session leaves it Terminated.** -/
theorem handle_stays_terminated {c : Coordinator} (ended : c.state.value = .terminated)
    {m : Message} (quiet : m.reopens = false) : (c.handle m).2.state.value = .terminated := by
  cases m with
  | callback cb =>
      show (c.onCallback cb).state.value = .terminated
      cases cb with
      | peerUpdate body =>
          show (c.onPeerUpdate body).state.value = .terminated
          rcases onPeerUpdate_cases body c with e | ⟨open', -, -⟩
          · rw [e]
            exact ended
          · exact absurd ended open'
      | terminated =>
          show c.terminate.state.value = .terminated
          simp [terminate, publish]
      | registered => cases quiet
      | connected => cases quiet
      | authError code message => cases quiet
  | command command =>
      show (c.onCommand command).2.state.value = .terminated
      rw [(onCommand_observed command c).1]
      exact ended
  | pulled number epoch snapshot =>
      show (c.onPulled epoch snapshot).state.value = .terminated
      rcases onPulled_cases epoch snapshot c with e | ⟨-, -, s, -, e⟩
      · rw [e]
        exact ended
      · rw [e]
        exact ended

/-! ## §2. Runs. -/

theorem BlankAtEnd.change {a : Action} {c c' : Coordinator} (h : BlankAtEnd c)
    (step : Change a c c') : BlankAtEnd c' := by
  rcases step.observed with ⟨state, views⟩ | ⟨m, rest, -, -, rfl⟩
  · unfold BlankAtEnd
    rw [state, views]
    exact h
  · have h' : BlankAtEnd { c with inbox := rest } := h
    exact h'.handle m

theorem run_blankAtEnd (interval : Nat) (actions : List Action) :
    BlankAtEnd ((start interval).run actions) := by
  refine run_induction (fun c a h => h.change (act_change a c)) ?_ actions
  intro ended
  cases ended

/-- One step leaves the state Terminated unless it handles a message that
reopens the session. -/
theorem act_stays_terminated {c : Coordinator} (ended : c.state.value = .terminated) {a : Action}
    (quiet : ∀ m, c.handledBy a = some m → m.reopens = false) :
    (c.act a).state.value = .terminated := by
  rcases (act_change a c).observed with ⟨state, -⟩ | ⟨m, rest, rfl, next, e⟩
  · rw [state]
    exact ended
  · rw [e]
    have first : c.handledBy .handleNext = some m := by simp [handledBy, next]
    have ended' : { c with inbox := rest }.state.value = .terminated := ended
    exact handle_stays_terminated ended' (quiet m first)

/-- A session that has ended stays so until it is reopened. -/
theorem run_stays_terminated {c : Coordinator} (ended : c.state.value = .terminated)
    {actions : List Action} (quiet : ∀ m ∈ c.handled actions, m.reopens = false) :
    (c.run actions).state.value = .terminated := by
  induction actions generalizing c with
  | nil => exact ended
  | cons a actions ih =>
      have here : ∀ m, c.handledBy a = some m → m.reopens = false := by
        intro m hm
        exact quiet m (by simp [handled, hm])
      have later : ∀ m ∈ (c.act a).handled actions, m.reopens = false := by
        intro m hm
        exact quiet m (List.mem_append_right _ hm)
      exact ih (act_stays_terminated ended here) later

/-- **Once the state is Terminated the views are blank, and both stay so until
a registered, connected or authError callback is handled**, whatever else is
handled meanwhile. -/
theorem views_blank_from_termination_until_reopened (interval : Nat) (actions : List Action)
    (ended : ((start interval).run actions).state.value = .terminated) :
    let c := (start interval).run actions
    c.views.IsBlank
      ∧ ∀ more, (∀ m ∈ c.handled more, m.reopens = false) →
          (c.run more).state.value = .terminated ∧ (c.run more).views.IsBlank := by
  intro c
  refine ⟨run_blankAtEnd interval actions ended, fun more quiet => ?_⟩
  have ended' : (c.run more).state.value = .terminated := run_stays_terminated ended quiet
  have blank : BlankAtEnd ((start interval).run (actions ++ more)) :=
    run_blankAtEnd interval (actions ++ more)
  rw [run_append] at blank
  exact ⟨ended', blank ended'⟩

/-- A session ends while a pull has its answer.  A connect request is accepted,
the answer comes late and the engine pushes once more; nothing of it is seen. -/
theorem views_blank_across_accepted_connect :
    let c := (start 5000).run
      [.callback .connected, .handleNext, .callback (.peerUpdate "[]"), .handleNext,
        .beginTimed 0, .endPull 0 (some (.status .blank)), .callback .terminated, .handleNext]
    let more : List Action :=
      [.request (.connect { endpoint := "vpn", userToken := some "t" }), .handleNext, .report 0,
        .handleNext, .callback (.peerUpdate "[]"), .handleNext]
    c.state.value = .terminated ∧ (c.handled more).length = 3
      ∧ (c.run more).outbox.length = 1 ∧ c.views.IsBlank ∧ (c.run more).views.IsBlank := by
  intro c more
  have ended : c.state.value = .terminated := by decide +kernel
  have quiet : ∀ m ∈ c.handled more, m.reopens = false := by
    have all : (c.handled more).all (fun m => !m.reopens) = true := by decide +kernel
    intro m hm
    simpa using List.all_eq_true.mp all m hm
  obtain ⟨blank, kept⟩ := views_blank_from_termination_until_reopened 5000 _ ended
  exact ⟨ended, by decide +kernel, by decide +kernel, blank, (kept more quiet).2⟩

end Coordinator

end TunnelControl
