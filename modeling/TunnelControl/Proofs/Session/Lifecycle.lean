/-
  TunnelControl.Proofs.Session.Lifecycle
  ──────────────────────────────────────
  **THE CONNECTION STATE FOLLOWS THE LIFECYCLE CALLBACKS.**

  A lifecycle callback names the state that it leads to, whatever the state
  was.  A session, with its queue, its pulls and an engine whose calls fail or
  do not end, moves its connection state like a machine with one variable that
  reads these names alone.

    • `Callback.target?`, `Message.target?` — the state that is named,
    • `handle_state`, `act_state`           — one message, one step,
    • `targets`, `run_state`                — a run writes the names it handles,
    • `target_eq_some_iff`                  — which steps name a state,
    • `Delivery.state_follows_callbacks`.
-/
import TunnelControl.Proofs.Session.Delivery
import TunnelControl.Proofs.Session.Termination
import TunnelControl.Proofs.View.Changes

namespace TunnelControl

/-- The state that a lifecycle callback names.  A peer update is none. -/
def Callback.target? : Callback → Option ConnectionState
  | .registered => some .registered
  | .connected => some .connected
  | .terminated => some .terminated
  | .authError code message => some (.authError code message)
  | .peerUpdate _ => none

/-- The state that a message names: a callback's, for requests and the results
of pulls name none. -/
def Message.target? : Message → Option ConnectionState
  | .callback cb => cb.target?
  | _ => none

namespace Coordinator

/-! ## §1. One message. -/

theorem after_eq_target (s : ConnectionState) (cb : Callback) : s.after cb = cb.target? := by
  cases cb <;> rfl

theorem onCallback_state (cb : Callback) (c : Coordinator) :
    (c.onCallback cb).state = c.state.follow cb.target?.toList := by
  rcases onCallback_cases cb c with ⟨body, rfl, e⟩ | ⟨rfl, e⟩ | ⟨next, -, after, e⟩
  · rw [e]
    rcases onPeerUpdate_cases body c with e | ⟨-, ps, e⟩
    · rw [e]
      rfl
    · rw [e]
      rfl
  · rw [e]
    rfl
  · obtain ⟨epoch, poll, loops, frame⟩ := move_frame next c
    rw [e, frame, ← after_eq_target c.state.value, after]
    rfl

/-- **A message writes the state that it names, and no other.** -/
theorem handle_state (m : Message) (c : Coordinator) :
    (c.handle m).2.state = c.state.follow m.target?.toList := by
  cases m with
  | callback cb => exact onCallback_state cb c
  | command command => exact (onCommand_observed command c).1
  | pulled number epoch snapshot =>
      show (c.onPulled epoch snapshot).state = c.state
      rcases onPulled_cases epoch snapshot c with e | ⟨-, -, s, -, e⟩
      · rw [e]
      · rw [e]
        rfl

/-! ## §2. Every run. -/

/-- The state that a step names. -/
def target? (a : Action) (c : Coordinator) : Option ConnectionState :=
  (c.handledBy a).bind Message.target?

/-- The states that a run names, in order: those of the lifecycle callbacks
that it handles. -/
def targets (actions : List Action) (c : Coordinator) : List ConnectionState :=
  (c.handled actions).filterMap Message.target?

/-- **A step names a state exactly if it handles a lifecycle callback.** -/
theorem target_eq_some_iff {a : Action} {c : Coordinator} {next : ConnectionState} :
    c.target? a = some next ↔ a = .handleNext
      ∧ ∃ cb : Callback, c.inbox.head? = some (.callback cb) ∧ cb.target? = some next := by
  by_cases handles : a = .handleNext
  · subst handles
    show c.inbox.head?.bind Message.target? = some next ↔ _
    cases c.inbox.head? with
    | none => simp
    | some m => cases m <;> simp [Message.target?]
  · simp [target?, handledBy_eq_none handles c, handles]

theorem targets_cons (a : Action) (actions : List Action) (c : Coordinator) :
    c.targets (a :: actions) = (c.target? a).toList ++ (c.act a).targets actions := by
  unfold targets target?
  rw [handled, List.filterMap_append]
  cases c.handledBy a with
  | none => rfl
  | some m =>
      show [m].filterMap Message.target? ++ _ = m.target?.toList ++ _
      cases h : m.target? with
      | none => simp [h]
      | some next => simp [h]

/-- **A step writes the state that it names, and no other.** -/
theorem act_state (a : Action) (c : Coordinator) :
    (c.act a).state = c.state.follow (c.target? a).toList := by
  have step := congrArg Prod.fst (act_standing a c)
  unfold target?
  cases first : c.handledBy a with
  | none =>
      rw [first] at step
      exact step
  | some m =>
      rw [first] at step
      exact step.trans (handle_state m _)

/-- **A run writes the states that it names, one after the other.** -/
theorem run_state (actions : List Action) (c : Coordinator) :
    (c.run actions).state = c.state.follow (c.targets actions) := by
  induction actions generalizing c with
  | nil => rfl
  | cons a actions ih =>
      rw [run_cons, ih, act_state, targets_cons, Channel.follow_append]

end Coordinator

/-! ## §3. The main result. -/

namespace Delivery

open Coordinator

variable {σ : Type} (engine : Engine σ) (breaks : EngineCall → σ → Bool)

/-- What holds of the connection state after a run that named some states. -/
structure FollowsCallbacks (named : List ConnectionState) (d : Delivery σ) : Prop where
  /-- It is the state named last, or Disconnected. -/
  state : d.session.state.value = named.getLast?.getD .disconnected
  /-- It was written as often as another state was named. -/
  writes : d.session.state.version = Channel.changes .disconnected named
  /-- A lifecycle callback that is handled moves it to the state that it names,
  whatever it was. -/
  moved : ∀ cb next, d.session.inbox.head? = some (.callback cb) → cb.target? = some next →
    (d.act engine breaks .handleNext).session.state.value = next
  /-- A step of any other kind leaves it alone, unwritten: a request, a peer
  update, the result of a pull, and a call, whatever comes of it. -/
  kept : ∀ a, (a = .handleNext → ∀ cb, d.session.inbox.head? = some (.callback cb) →
      cb.target? = none) →
    (d.act engine breaks a).session.state = d.session.state
  /-- A subscriber who knows of all writes is told of a step, and given the new
  state, exactly if the state is another one then. -/
  subscribers : ∀ a ended (s : Subscription ConnectionState),
    s.seen = d.session.state.version →
    let after := (d.act engine breaks a).session.state
    s.changed after ended = if after.value = d.session.state.value then (.idle ended, s)
      else (.ready after.value, .of after)
  /-- So is the reader of a feed. -/
  feeds : ∀ a ended (f : Feed), f.seen = some d.session.state.version →
    let after := (d.act engine breaks a).session.state
    f.next after ended = if after.value = d.session.state.value then (.idle ended, f)
      else (.ready after.value, ⟨some after.version⟩)
  /-- One who asks only after several steps is told exactly if one of them
  changed the state, and given the last one. -/
  late : ∀ more ended (s : Subscription ConnectionState), s.seen = d.session.state.version →
    let after := (d.run engine breaks more).session.state
    s.changed after ended
      = if Channel.changes d.session.state.value (d.session.targets more) = 0 then (.idle ended, s)
        else (.ready after.value, .of after)

/-- The series of one step changes exactly if the state is another one then. -/
theorem changes_target (a : Action) (c : Coordinator) :
    Channel.changes c.state.value (c.target? a).toList = 0
      ↔ (c.act a).state.value = c.state.value := by
  rw [act_state, Channel.value_follow]
  cases c.target? a with
  | none => simp [Channel.changes]
  | some next => simp [Channel.changes, eq_comm]

/-- **After every run the connection state is the one that the last lifecycle
callback named**, nothing else ever writes it, and its observers are told of
exactly the steps after which it is another one. -/
theorem state_follows_callbacks (interval : Nat) (s : σ) (actions : List Action) :
    FollowsCallbacks engine breaks ((Coordinator.start interval).targets actions)
      ((start interval s).run engine breaks actions) := by
  have session := run_session engine breaks actions (start interval s)
  have state := run_state actions (Coordinator.start interval)
  generalize (start interval s).run engine breaks actions = d at session
  change d.session = (Coordinator.start interval).run actions at session
  rw [← session] at state
  -- what a step does to the state, seen from the session alone
  have step : ∀ a, (d.act engine breaks a).session.state
      = d.session.state.follow (d.session.target? a).toList := by
    intro a
    rw [act_session, act_state]
  constructor
  case state =>
    rw [state, Channel.value_follow]
    rfl
  case writes =>
    rw [state, Channel.version_follow]
    exact Nat.zero_add _
  case moved =>
    intro cb next head names
    have target : d.session.target? .handleNext = some next :=
      target_eq_some_iff.mpr ⟨rfl, cb, head, names⟩
    rw [step, target, Channel.value_follow]
    rfl
  case kept =>
    intro a other
    have target : d.session.target? a = none := by
      rw [Option.eq_none_iff_forall_ne_some]
      intro next named
      obtain ⟨handles, cb, head, names⟩ := target_eq_some_iff.mp named
      rw [other handles cb head] at names
      cases names
    rw [step, target]
    rfl
  case subscribers =>
    intro a ended s upToDate after
    have asked := Subscription.changed_of_seen upToDate (d.session.target? a).toList ended
    simp only [changes_target, ← act_state, ← act_session engine breaks] at asked
    exact asked
  case feeds =>
    intro a ended f upToDate after
    have asked := Feed.next_of_seen upToDate (d.session.target? a).toList ended
    simp only [changes_target, ← act_state, ← act_session engine breaks] at asked
    exact asked
  case late =>
    intro more ended s upToDate after
    have asked := Subscription.changed_of_seen upToDate (d.session.targets more) ended
    rw [← run_state, ← run_session engine breaks] at asked
    exact asked

/-- An engine fails every call; the same callback twice is one change. -/
example :
    let session := ((start 0 []).run (Engine.recording (.error .unavailable)) (fun _ _ => false)
      [.callback .connected, .callback .connected, .request .disconnect,
        .callback (.authError 401 "expired"), .handleNext, .handleNext, .handleNext,
        .callNext .delivered, .handleNext]).session
    session.state.value = .authError 401 "expired" ∧ session.state.version = 2 := by
  decide +kernel

end Delivery

end TunnelControl
