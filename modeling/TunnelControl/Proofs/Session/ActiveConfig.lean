/-
  TunnelControl.Proofs.Session.ActiveConfig
  ─────────────────────────────────────────
  **THE ACTIVE CONFIG IS THAT OF THE LAST ACCEPTED CONNECT.**

  An accepted connect request does two things: it makes its config the active
  one, and it queues a call with the config's text.  The end of the session
  takes the config away and queues nothing.  Both are turns, and no other step
  touches the config or queues a connect call; so the two stay in agreement,
  until the worker ends.  A connect request that is handled after that is
  refused, and its config is the active one nevertheless.

    • `Turn.config`, `act_active`, `run_active` — the last turn tells the config,
    • `queuedBy`, `queued`                      — the calls that are queued,
    • `act_connects`, `run_connects`            — connect calls and turns agree,
    • `turns_unstranded`                        — while the worker goes on,
    • `active_config_is_that_of_the_last_connect`,
    • `refused_connect_leaves_its_config`       — where the two part.
-/
import TunnelControl.Proofs.Session.Delivery
import TunnelControl.Proofs.Session.Turns
import TunnelControl.Session.Closing

namespace TunnelControl

/-- The text that the engine is called with at a turn. -/
def Turn.called : Turn → Option String
  | opened config => some config.json
  | _ => none

/-- The body of a connect call. -/
def EngineCall.connectBody? : EngineCall → Option String
  | connect body => some body
  | _ => none

namespace Coordinator

/-! ## §1. The active config. -/

/-- The turns that a run takes, in order. -/
def turns : List Action → Coordinator → List Turn
  | [], _ => []
  | a :: actions, c => (c.turnBy a).toList ++ turns actions (c.act a)

/-- The active config after turns, if there was one before. -/
def activeAfter (before : Option ValidatedConfig) (turns : List Turn) : Option ValidatedConfig :=
  turns.foldl (fun _ turn => turn.config) before

/-- **A step changes the active config if it takes a turn, and leaves it alone
if not.** -/
theorem act_active (a : Action) (c : Coordinator) :
    (c.act a).active = activeAfter c.active (c.turnBy a).toList := by
  cases turn : c.turnBy a with
  | none => exact (act_of_no_turn turn).2
  | some => exact (act_of_turn turn).2

/-- **The turns of a run tell the active config.** -/
theorem run_active (actions : List Action) (c : Coordinator) :
    (c.run actions).active = activeAfter c.active (c.turns actions) := by
  induction actions generalizing c with
  | nil => rfl
  | cons a actions ih =>
      rw [run_cons, ih, act_active, turns, activeAfter, activeAfter, activeAfter,
        List.foldl_append]

/-- Only the last turn matters. -/
theorem activeAfter_eq (turns : List Turn) :
    activeAfter none turns = turns.getLast?.bind Turn.config := by
  rcases List.eq_nil_or_concat turns with rfl | ⟨before, turn, rfl⟩
  · rfl
  · rw [activeAfter, List.concat_eq_append, List.foldl_append, List.getLast?_concat]
    rfl

/-- No connect request was refused for the end of the worker. -/
def Unstranded (turns : List Turn) : Prop := ∀ config, .stranded config ∉ turns

section

variable {turns : List Turn} (unstranded : Unstranded turns)

include unstranded

theorem activeAfter_eq_some_iff {config : ValidatedConfig} :
    activeAfter none turns = some config ↔ turns.getLast? = some (.opened config) := by
  rw [activeAfter_eq]
  cases last : turns.getLast? with
  | none => simp
  | some turn =>
      cases turn with
      | opened config' => simp [Turn.config]
      | stranded config' => exact absurd (List.mem_of_getLast? last) (unstranded config')
      | ended => simp [Turn.config]

/-- There is a config exactly if an attempt was opened after the last end. -/
theorem activeAfter_isSome_iff :
    (activeAfter none turns).isSome = true
      ↔ ∃ before config after, turns = before ++ .opened config :: after ∧ .ended ∉ after := by
  constructor
  · intro some
    obtain ⟨config, active⟩ := Option.isSome_iff_exists.mp some
    obtain ⟨before, split⟩ :=
      List.getLast?_eq_some_iff.mp ((activeAfter_eq_some_iff unstranded).mp active)
    exact ⟨before, config, [], split, List.not_mem_nil⟩
  · rintro ⟨before, config, after, rfl, goesOn⟩
    rw [activeAfter, List.foldl_append, List.foldl_cons]
    -- whatever follows opens another attempt
    rcases List.eq_nil_or_concat after with rfl | ⟨more, turn, rfl⟩
    · rfl
    · rw [List.concat_eq_append, List.foldl_append]
      cases turn with
      | opened config' => rfl
      | stranded config' => rfl
      | ended => exact absurd (by simp) goesOn

end

/-- While the worker goes on no connect request is refused for its end. -/
theorem turns_unstranded {actions : List Action} {c : Coordinator}
    (works : (c.run actions).workerEnded = false) :
    c.workerEnded = false ∧ Unstranded (c.turns actions) := by
  induction actions generalizing c with
  | nil => exact ⟨works, fun _ => List.not_mem_nil⟩
  | cons a actions ih =>
      obtain ⟨next, later⟩ := ih works
      have now := act_works next
      refine ⟨now, fun config listed => ?_⟩
      rcases List.mem_append.mp listed with first | rest
      · exact turnBy_stranded now config (Option.mem_toList.mp first)
      · exact later config rest

/-! ## §2. The connect calls that are queued. -/

/-- The calls that a step adds to their queue. -/
def queuedBy (a : Action) (c : Coordinator) : List EngineCall :=
  (c.act a).outbox.drop c.outbox.length

/-- The calls that a run queues, in order. -/
def queued : List Action → Coordinator → List EngineCall
  | [], _ => []
  | a :: actions, c => c.queuedBy a ++ queued actions (c.act a)

/-- Only the handling of a message queues calls. -/
theorem queuedBy_eq (a : Action) (c : Coordinator) :
    c.queuedBy a = (c.handledBy a).elim [] c.callsOf := by
  have way := act_way a c
  unfold queuedBy
  generalize c.act a = c' at way ⊢
  cases way with
  | aside sent frame other =>
      rw [handledBy_eq_none other, frame.eq]
      exact List.drop_length
  | idle empty => simp [handledBy, empty]
  | handled m rest next =>
      have calls : ({ c with inbox := rest }.handle m).2.outbox = c.outbox ++ c.callsOf m :=
        (handle_calls m _).1
      rw [calls, List.drop_left, handledBy, next]
      rfl
  | called o => simp [handledBy]
  | workerEnds => exact List.drop_nil
  | shut =>
      show c.shutdown.outbox.drop c.outbox.length = []
      unfold shutdown
      split
      next => exact List.drop_length
      next => exact List.drop_nil

/-- The calls that a step queues are those of the request that it accepts. -/
theorem queuedBy_eq_accepted (a : Action) (c : Coordinator) :
    c.queuedBy a = (c.answeredBy a).toList.filterMap acceptedCall? := by
  rw [queuedBy_eq]
  by_cases handles : a = .handleNext
  · subst handles
    cases next : c.inbox with
    | nil => simp [handledBy, answeredBy, next]
    | cons m rest =>
        rw [handledBy, next, List.head?_cons, Option.elim_some]
        cases m with
        | command command =>
            rw [answeredBy_command next]
            show { c with inbox := rest }.callsOf (.command command) = _
            rw [callsOf_command]
            cases h : acceptedCall? (command, ({ c with inbox := rest }.onCommand command).1) with
            | none => simp [h]
            | some e => simp [h]
        | callback cb =>
            rw [answeredBy_other next rfl]
            rfl
        | pulled number epoch snapshot =>
            rw [answeredBy_other next rfl]
            rfl
  · rw [handledBy_eq_none handles, answeredBy_eq_none handles]
    rfl

theorem queued_eq_accepted (actions : List Action) (c : Coordinator) :
    c.queued actions = c.acceptedCalls actions := by
  induction actions generalizing c with
  | nil => rfl
  | cons a actions ih =>
      rw [queued, ih, queuedBy_eq_accepted, acceptedCalls, acceptedCalls, answered,
        List.filterMap_append]

theorem connects_queueable {e : EngineCall} (other : e.connectBody? = none) (c : Coordinator) :
    (c.queueable e).filterMap EngineCall.connectBody? = [] := by
  unfold queueable
  split
  next => rfl
  next => simp [other]

/-- A message queues a connect call exactly if it opens an attempt, with the
text of its config. -/
theorem connects_callsOf (m : Message) (c : Coordinator) :
    (c.callsOf m).filterMap EngineCall.connectBody?
      = (c.turnOf m).toList.filterMap Turn.called := by
  cases m with
  | callback cb => cases cb <;> rfl
  | command command =>
      cases command with
      | connect config =>
          rcases onConnect_cases config c with ⟨busy, e⟩ | ⟨free, works, e⟩ | ⟨free, ended, e⟩
          · simp [callsOf, busy, turnOf, e]
          · simp [callsOf, queueable, free, works, turnOf, e, EngineCall.connectBody?, Turn.called]
          · simp [callsOf, queueable, free, ended, turnOf, e, Turn.called]
      | disconnect => exact connects_queueable rfl c
      | switchOrg org => exact connects_queueable rfl c
      | updateSettings body => exact connects_queueable rfl c
      | refresh => rfl
  | pulled number epoch snapshot => rfl

/-- **A step queues a connect call exactly if it opens an attempt.** -/
theorem act_connects (a : Action) (c : Coordinator) :
    (c.queuedBy a).filterMap EngineCall.connectBody?
      = (c.turnBy a).toList.filterMap Turn.called := by
  rw [queuedBy_eq, turnBy]
  cases c.handledBy a with
  | none => rfl
  | some m => exact connects_callsOf m c

/-- **The connect calls that a run queues are those of the attempts that it
opens**, in the same order. -/
theorem run_connects (actions : List Action) (c : Coordinator) :
    (c.queued actions).filterMap EngineCall.connectBody?
      = (c.turns actions).filterMap Turn.called := by
  induction actions generalizing c with
  | nil => rfl
  | cons a actions ih =>
      rw [queued, turns, List.filterMap_append, List.filterMap_append, ih, act_connects]

/-! ## §3. The main result. -/

/-- What holds of the active config after a run. -/
structure ConfigOfLastConnect (interval : Nat) (actions : List Action) (c : Coordinator) :
    Prop where
  /-- As long as the worker goes on, no connect request is refused for its end. -/
  works : c.workerEnded = false → Unstranded ((start interval).turns actions)
  /-- If none was, there is one exactly if a connect request was accepted after
  the last terminated callback, or since the beginning. -/
  present : Unstranded ((start interval).turns actions) → (c.active.isSome = true
    ↔ ∃ before config after,
      (start interval).turns actions = before ++ .opened config :: after ∧ .ended ∉ after)
  /-- It is the config of the last such request: nothing turned since. -/
  last : Unstranded ((start interval).turns actions) → ∀ config, c.active = some config
    ↔ ((start interval).turns actions).getLast? = some (.opened config)
  /-- Its text is the body of the last connect call that was queued. -/
  call : Unstranded ((start interval).turns actions) → ∀ config, c.active = some config →
    (((start interval).queued actions).filterMap EngineCall.connectBody?).getLast?
      = some config.json
  /-- In any case the last turn tells the config: of a connect request that was
  accepted, or refused because the worker has ended. -/
  tells : c.active = ((start interval).turns actions).getLast?.bind Turn.config
  /-- The connect calls that were queued are those of the accepted requests
  alone, in the same order. -/
  calls : ((start interval).queued actions).filterMap EngineCall.connectBody?
    = ((start interval).turns actions).filterMap Turn.called
  /-- Until a shutdown begins, what was queued was attempted or waits. -/
  queue : (∀ a ∈ actions, a.isShutdown = false) →
    c.attempted ++ c.outbox = (start interval).queued actions
  /-- A connect request that is accepted makes its config the active one. -/
  accepted : ∀ config, c.inbox.head? = some (.command (.connect config)) →
    (c.onConnect config).1 = .ok .queued → (c.act .handleNext).active = some config
  /-- So does one that is refused because the worker has ended, and no call is
  queued for it. -/
  stranded : ∀ config, c.inbox.head? = some (.command (.connect config)) →
    (c.onConnect config).1 = .error .shutDown →
      (c.act .handleNext).active = some config ∧ c.queuedBy .handleNext = []
  /-- A terminated callback takes it away. -/
  terminated : c.inbox.head? = some (.callback .terminated) → (c.act .handleNext).active = none
  /-- No other step changes it: no other callback, no result of a pull, no
  other request, and no connect request that is refused while Connected. -/
  kept : ∀ a, (a = .handleNext → c.inbox.head? ≠ some (.callback .terminated)
      ∧ ∀ config, c.inbox.head? = some (.command (.connect config)) →
        (c.onConnect config).1 ≠ .ok .queued ∧ (c.onConnect config).1 ≠ .error .shutDown) →
    (c.act a).active = c.active

/-- The calls of a connect request that is refused are none. -/
theorem queuedBy_of_refused {c : Coordinator} {config : ValidatedConfig} {e : RequestError}
    (head : c.inbox.head? = some (.command (.connect config)))
    (refused : (c.onConnect config).1 = .error e) : c.queuedBy .handleNext = [] := by
  rw [queuedBy_eq, handledBy, head, Option.elim_some, callsOf_command]
  show (acceptedCall? (.connect config, (c.onConnect config).1)).toList = []
  rw [refused]
  rfl

/-- **After every run the active config is that of the last connect request
accepted since the session ended last, and the engine was called with it last**,
if no connect request was handled after the worker has ended: such a one is
refused, nobody is called, and its config becomes the active one. -/
theorem active_config_is_that_of_the_last_connect (interval : Nat) (actions : List Action) :
    ConfigOfLastConnect interval actions ((start interval).run actions) := by
  have active : ((start interval).run actions).active
      = activeAfter none ((start interval).turns actions) := run_active actions (start interval)
  have calls : (∀ a ∈ actions, a.isShutdown = false) →
      ((start interval).run actions).attempted ++ ((start interval).run actions).outbox
        = (start interval).acceptedCalls actions := fun goesOn => run_calls goesOn (start interval)
  have works : ((start interval).run actions).workerEnded = false →
      Unstranded ((start interval).turns actions) := fun goesOn => (turns_unstranded goesOn).2
  generalize (start interval).run actions = c at active calls works
  constructor
  case works => exact works
  case present =>
    intro unstranded
    rw [active]
    exact activeAfter_isSome_iff unstranded
  case last =>
    intro unstranded config
    rw [active]
    exact activeAfter_eq_some_iff unstranded
  case call =>
    intro unstranded config present
    rw [active, activeAfter_eq_some_iff unstranded] at present
    obtain ⟨before, split⟩ := List.getLast?_eq_some_iff.mp present
    rw [run_connects, split, List.filterMap_append]
    exact List.getLast?_concat
  case tells =>
    rw [active]
    exact activeAfter_eq _
  case calls => exact run_connects actions (start interval)
  case queue =>
    rw [queued_eq_accepted]
    exact calls
  case accepted =>
    intro config head accepted
    have turn : c.turnBy .handleNext = some (.opened config) :=
      turnBy_eq_some_iff.mpr ⟨rfl, .inl ⟨config, rfl, head, accepted⟩⟩
    exact (act_of_turn turn).2
  case stranded =>
    intro config head refused
    have turn : c.turnBy .handleNext = some (.stranded config) :=
      turnBy_eq_some_iff.mpr ⟨rfl, .inr (.inl ⟨config, rfl, head, refused⟩)⟩
    exact ⟨(act_of_turn turn).2, queuedBy_of_refused head refused⟩
  case terminated =>
    intro head
    have turn : c.turnBy .handleNext = some .ended :=
      turnBy_eq_some_iff.mpr ⟨rfl, .inr (.inr ⟨rfl, head⟩)⟩
    exact (act_of_turn turn).2
  case kept =>
    intro a other
    have none : c.turnBy a = none := by
      rw [Option.eq_none_iff_forall_ne_some]
      intro turn takes
      obtain ⟨handles, ⟨config, -, head, accepted⟩ | ⟨config, -, head, refused⟩ | ⟨-, head⟩⟩ :=
        turnBy_eq_some_iff.mp takes
      · exact ((other handles).2 config head).1 accepted
      · exact ((other handles).2 config head).2 refused
      · exact (other handles).1 head
    exact (act_of_no_turn none).2

/-- A connect request is handled when a shutdown has begun and the worker has
ended: it is refused, no call is queued, and its config is the active one. -/
theorem refused_connect_leaves_its_config :
    let config : ConnectionConfig := { endpoint := "vpn", userToken := some "t", orgId := "org_1" }
    let actions : List Action := [.request (.connect config), .shutdown, .endWorker]
    let k := (Closing.start 5000).run (actions.map .session)
    let k' := k.step (.session .handleNext)
    k.session.handleNext.1 = some (.error .shutDown)
      ∧ k.session.active = none ∧ k'.session.active.map ValidatedConfig.orgId = some "org_1"
      ∧ k'.session.outbox = [] ∧ k'.session.attempted = [] := by
  exact ⟨rfl, rfl, rfl, rfl, rfl⟩

/-- The second of two connect requests supersedes the first while Registered;
the third is refused while Connected. -/
example :
    let config (org : String) : Request :=
      .connect { endpoint := "vpn", userToken := some "t", orgId := org }
    let c := (start 5000).run
      [.request (config "a"), .handleNext, .callback .registered, .handleNext,
        .request (config "b"), .handleNext, .callback .connected, .handleNext,
        .request (config "c"), .handleNext]
    c.active.map ValidatedConfig.orgId = some "b" ∧ c.outbox.length = 2 := by
  decide +kernel

end Coordinator

end TunnelControl
