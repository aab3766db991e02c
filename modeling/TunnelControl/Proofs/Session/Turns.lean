/-
  TunnelControl.Proofs.Session.Turns
  ──────────────────────────────────
  **WHEN ONE ATTEMPT GIVES WAY TO THE NEXT.**

  A turn is a connect request that is accepted, or a terminated callback; or a
  connect request in a shutdown, which begins its attempt and is refused then,
  since the worker has ended.  Every turn begins another attempt, and nothing
  else that happens in a session touches attempts or their claims.

    • `Turn`, `turnOf`, `turnBy`     — the turn that a message or a step takes,
    • `turnBy_eq_some_iff`           — which these are,
    • `act_of_turn`, `act_of_no_turn`,
      `act_provisioner`              — what a step does to attempts and config,
    • `act_works`, `turnBy_stranded` — none is stranded while the worker goes on.
-/
import TunnelControl.Proofs.Session.Requests

namespace TunnelControl

/-- What ends one attempt and begins the next. -/
inductive Turn where
  /-- A connect request is accepted. -/
  | opened (config : ValidatedConfig)
  /-- A connect request is refused because the worker has ended, when its attempt
  has begun already. -/
  | stranded (config : ValidatedConfig)
  /-- The engine has reported the end of the session. -/
  | ended

/-- The config of the attempt that a turn begins. -/
def Turn.config : Turn → Option ValidatedConfig
  | opened config => some config
  | stranded config => some config
  | ended => none

/-- Does the turn open an attempt for a session that is to be connected? -/
def Turn.opens : Turn → Bool
  | opened _ => true
  | _ => false

namespace Coordinator

/-- The turn that the handling of a message takes. -/
def turnOf (m : Message) (c : Coordinator) : Option Turn :=
  match m with
  | .command (.connect config) =>
      match (c.onConnect config).1 with
      | .ok _ => some (.opened config)
      | .error .shutDown => some (.stranded config)
      | .error _ => none
  | .callback .terminated => some .ended
  | _ => none

/-- The turn that a step takes. -/
def turnBy (a : Action) (c : Coordinator) : Option Turn :=
  (c.handledBy a).bind fun m => c.turnOf m

/-! ## §1. What turns are. -/

theorem turnOf_eq_some_iff {m : Message} {c : Coordinator} {turn : Turn} :
    c.turnOf m = some turn ↔
      (∃ config, turn = .opened config ∧ m = .command (.connect config)
        ∧ (c.onConnect config).1 = .ok .queued)
      ∨ (∃ config, turn = .stranded config ∧ m = .command (.connect config)
        ∧ (c.onConnect config).1 = .error .shutDown)
      ∨ turn = .ended ∧ m = .callback .terminated := by
  cases m with
  | command command =>
      cases command with
      | connect config =>
          constructor
          · intro takes
            -- refused while Connected, accepted, or refused since the worker has ended
            rcases onConnect_cases config c with ⟨-, e⟩ | ⟨-, -, e⟩ | ⟨-, -, e⟩
            · simp [turnOf, e] at takes
            · simp only [turnOf, e, Option.some_inj] at takes
              exact .inl ⟨config, takes.symm, rfl, by rw [e]⟩
            · simp only [turnOf, e, Option.some_inj] at takes
              exact .inr (.inl ⟨config, takes.symm, rfl, by rw [e]⟩)
          · rintro (⟨_, rfl, ⟨⟩, accepted⟩ | ⟨_, rfl, ⟨⟩, refused⟩ | ⟨-, ⟨⟩⟩)
            · simp only [turnOf, accepted]
            · simp only [turnOf, refused]
      | _ => simp [turnOf]
  | callback cb => cases cb <;> simp [turnOf, eq_comm]
  | pulled number epoch snapshot => simp [turnOf]

/-- **The turns are the connect requests that are handled and accepted, or
refused for the end of the worker, and the terminated callbacks.** -/
theorem turnBy_eq_some_iff {a : Action} {c : Coordinator} {turn : Turn} :
    c.turnBy a = some turn ↔ a = .handleNext ∧
      ((∃ config, turn = .opened config ∧ c.inbox.head? = some (.command (.connect config))
        ∧ (c.onConnect config).1 = .ok .queued)
      ∨ (∃ config, turn = .stranded config ∧ c.inbox.head? = some (.command (.connect config))
        ∧ (c.onConnect config).1 = .error .shutDown)
      ∨ turn = .ended ∧ c.inbox.head? = some (.callback .terminated)) := by
  by_cases handles : a = .handleNext
  · subst handles
    show (c.inbox.head?.bind fun m => c.turnOf m) = some turn ↔ _
    cases c.inbox.head? with
    | none => simp
    | some m => simp [turnOf_eq_some_iff]
  · simp [turnBy, handledBy_eq_none handles c, handles]

/-! ## §2. What turns do. -/

/-- The provisioner after a turn, or after none. -/
def turned (p : Provisioner) : Option Turn → Provisioner
  | some _ => p.beginAttempt
  | none => p

theorem turnOf_inbox (m : Message) (rest : List Message) (c : Coordinator) :
    { c with inbox := rest }.turnOf m = c.turnOf m := by
  cases m with
  | command command =>
      cases command with
      | connect config =>
          cases busy : c.state.value.isConnected <;> cases ended : c.workerEnded <;>
            simp [turnOf, onConnect, call, busy, ended]
      | _ => rfl
  | callback cb => cases cb <;> rfl
  | pulled number epoch snapshot => rfl

/-- A message that is no turn touches neither the attempts nor the config. -/
theorem handle_of_no_turn {m : Message} {c : Coordinator} (none : c.turnOf m = none) :
    (c.handle m).2.provisioner = c.provisioner ∧ (c.handle m).2.active = c.active := by
  have moved (next : ConnectionState) :
      (c.move next).provisioner = c.provisioner ∧ (c.move next).active = c.active := by
    obtain ⟨epoch, poll, loops, e⟩ := move_frame next c
    rw [e]
    exact ⟨rfl, rfl⟩
  have called (e : EngineCall) :
      (c.call e).2.provisioner = c.provisioner ∧ (c.call e).2.active = c.active := by
    obtain ⟨outbox, called⟩ := call_frame e c
    rw [called]
    exact ⟨rfl, rfl⟩
  cases m with
  | callback cb =>
      cases cb with
      | terminated => cases none
      | registered => exact moved .registered
      | connected => exact moved .connected
      | authError code message => exact moved (.authError code message)
      | peerUpdate body =>
          show (c.onPeerUpdate body).provisioner = _ ∧ (c.onPeerUpdate body).active = _
          rcases onPeerUpdate_cases body c with e | ⟨-, ps, e⟩
          · rw [e]
            exact ⟨rfl, rfl⟩
          · rw [e]
            exact ⟨rfl, rfl⟩
  | command command =>
      cases command with
      | connect config =>
          show (c.onConnect config).2.provisioner = _ ∧ (c.onConnect config).2.active = _
          rcases onConnect_cases config c with ⟨-, e⟩ | ⟨-, -, e⟩ | ⟨-, -, e⟩
          · rw [e]
            exact ⟨rfl, rfl⟩
          · simp [turnOf, e] at none
          · simp [turnOf, e] at none
      | disconnect => exact called .disconnect
      | switchOrg org => exact called (.switchOrg org)
      | updateSettings body => exact called (.updateSettings body)
      | refresh =>
          show c.onRefresh.2.provisioner = _ ∧ c.onRefresh.2.active = _
          unfold onRefresh
          split
          next => exact ⟨rfl, rfl⟩
          next => exact ⟨rfl, rfl⟩
  | pulled number epoch snapshot =>
      show (c.onPulled epoch snapshot).provisioner = _ ∧ (c.onPulled epoch snapshot).active = _
      rcases onPulled_cases epoch snapshot c with e | ⟨-, -, s, -, e⟩
      · rw [e]
        exact ⟨rfl, rfl⟩
      · rw [e]
        exact ⟨rfl, rfl⟩

/-- **A turn begins another attempt, and tells the config.** -/
theorem handle_of_turn {m : Message} {c : Coordinator} {turn : Turn} (takes : c.turnOf m = some turn) :
    (c.handle m).2.provisioner = c.provisioner.beginAttempt
      ∧ (c.handle m).2.active = turn.config := by
  have connects {config : ValidatedConfig} (free : (c.onConnect config).1 ≠ .error .sessionActive) :
      (c.onConnect config).2.provisioner = c.provisioner.beginAttempt
        ∧ (c.onConnect config).2.active = some config := by
    rcases onConnect_frame config c with e | ⟨-, outbox, e⟩
    · exact absurd (congrArg Prod.fst e) free
    · rw [e]
      exact ⟨rfl, rfl⟩
  rcases turnOf_eq_some_iff.mp takes with
    ⟨config, rfl, rfl, accepted⟩ | ⟨config, rfl, rfl, refused⟩ | ⟨rfl, rfl⟩
  · exact connects (by simp [accepted])
  · exact connects (by simp [refused])
  · exact ⟨rfl, rfl⟩

/-- A step that takes no turn touches neither the attempts nor the config. -/
theorem act_of_no_turn {a : Action} {c : Coordinator} (none : c.turnBy a = none) :
    (c.act a).provisioner = c.provisioner ∧ (c.act a).active = c.active := by
  have step := act_standing a c
  cases first : c.handledBy a with
  | none =>
      rw [first] at step
      exact ⟨congrArg (·.2.2.2) step, congrArg (·.2.2.1) step⟩
  | some m =>
      rw [first] at step
      rw [turnBy, first, Option.bind_some] at none
      -- a message is handled after it has left the queue
      have handled := handle_of_no_turn ((turnOf_inbox m c.inbox.tail c).trans none)
      exact ⟨(congrArg (·.2.2.2) step).trans handled.1, (congrArg (·.2.2.1) step).trans handled.2⟩

/-- **A step that takes a turn begins another attempt, and leaves the turn's
config.** -/
theorem act_of_turn {a : Action} {c : Coordinator} {turn : Turn} (takes : c.turnBy a = some turn) :
    (c.act a).provisioner = c.provisioner.beginAttempt ∧ (c.act a).active = turn.config := by
  obtain ⟨m, first, takes⟩ := Option.bind_eq_some_iff.mp takes
  have step := act_standing a c
  rw [first] at step
  have handled := handle_of_turn ((turnOf_inbox m c.inbox.tail c).trans takes)
  exact ⟨(congrArg (·.2.2.2) step).trans handled.1, (congrArg (·.2.2.1) step).trans handled.2⟩

/-- **A step begins another attempt if it takes a turn, and leaves attempts
and claims alone if not.** -/
theorem act_provisioner (a : Action) (c : Coordinator) :
    (c.act a).provisioner = turned c.provisioner (c.turnBy a) := by
  cases turn : c.turnBy a with
  | none => exact (act_of_no_turn turn).1
  | some => exact (act_of_turn turn).1

/-! ## §3. While the worker goes on. -/

theorem Handling.workerEnded_eq {c c' : Coordinator} (step : Handling c c') :
    c'.workerEnded = c.workerEnded := by
  cases step <;> rfl

/-- A worker that goes on after a step has gone on before. -/
theorem act_works {a : Action} {c : Coordinator} (works : (c.act a).workerEnded = false) :
    c.workerEnded = false := by
  have way := act_way a c
  generalize c.act a = c' at way works
  cases way with
  | aside sent frame =>
      rw [frame.eq] at works
      exact works
  | idle => exact works
  | handled m rest =>
      have kept := (handle_handling m { c with inbox := rest }).workerEnded_eq
      exact kept.symm.trans works
  | called o => exact works
  | workerEnds => cases works
  | shut =>
      unfold shutdown at works
      split at works
      next => exact works
      next => cases works

/-- No turn is stranded while the worker goes on. -/
theorem turnBy_stranded {a : Action} {c : Coordinator} (works : c.workerEnded = false)
    (config : ValidatedConfig) : c.turnBy a ≠ some (.stranded config) := by
  intro takes
  obtain ⟨-, ⟨-, ⟨⟩, -⟩ | ⟨config', ⟨⟩, -, refused⟩ | ⟨⟨⟩, -⟩⟩ := turnBy_eq_some_iff.mp takes
  rcases onConnect_cases config c with ⟨-, e⟩ | ⟨-, -, e⟩ | ⟨-, ended, -⟩
  · rw [e] at refused
    cases refused
  · rw [e] at refused
    cases refused
  · rw [works] at ended
    cases ended

end Coordinator

end TunnelControl
