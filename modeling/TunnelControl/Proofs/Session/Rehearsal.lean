/-
  TunnelControl.Proofs.Session.Rehearsal
  ──────────────────────────────────────
  **A REHEARSAL ADDS NOTHING TO THE SESSION.**

  A rehearsal has loops of its own, with bounds on their rounds, and picks the
  next pull by itself.  Yet all it does to a session is to take the session's
  own steps, and only such as its script calls for: what the engine answers,
  and the callbacks that come from inside a pull.  Time passes only when it is
  told to.  So what holds after every run of a session holds after every
  rehearsal.

    • `Script.Allows`        — the steps that a script calls for,
    • `Works`, `Works.trans` — getting there by such steps,
    • `drain_session`, `deliverAll_session`, `answerPull_session`
                             — the parts of a round, as runs,
    • `pullNext?_works`, `settle_works`, `advance_works`, `request_works`,
    • `run_clock`, `settle_clock`, `advance_clock_le`
                             — how much time passes,
    • `StepsOfItsSession`, `rehearsals_take_steps_of_their_session`.
-/
import TunnelControl.Proofs.Session.PullSchedule
import TunnelControl.Session.Rehearsal

namespace TunnelControl

open Coordinator

/-! ## §1. Getting there. -/

/-- The steps that a script calls for: work that is due, with the answers of
the script. -/
def Script.Allows (script : Script) : Action → Prop
  | .callback cb => cb ∈ script.duringPull
  | .endPull _ snapshot => snapshot = Snapshot.ofAnswers script.status script.peers
  | .callNext outcome => outcome = script.calls
  | .handleNext | .beginTimed _ | .beginRefresh _ | .report _ => True
  | .request _ | .advance _ | .endWorker | .shutdown | .dropHandle => False

/-- Time does not pass in a run that does not let it pass. -/
theorem Coordinator.run_clock {actions : List Action} (still : ∀ ms, .advance ms ∉ actions)
    (c : Coordinator) : (c.run actions).clock = c.clock := by
  induction actions generalizing c with
  | nil => rfl
  | cons a actions ih =>
      have first : (c.act a).clock = c.clock := by
        rcases act_time a c with same | ⟨ms, rfl⟩
        · exact same.1
        · exact absurd (List.mem_cons_self ..) (still ms)
      rw [run_cons, ih (fun ms h => still ms (List.mem_cons_of_mem a h)), first]

namespace Rehearsal

/-- A rehearsal comes from one state to another by steps of its session that
the script calls for, or that are asked for besides.  The script calls for
nothing new afterwards. -/
structure Works (asked : Action → Prop) (r r' : Rehearsal) : Prop where
  run : ∃ actions, r'.session = r.session.run actions
    ∧ ∀ a ∈ actions, r.script.Allows a ∨ asked a
  script : ∀ a, r'.script.Allows a → r.script.Allows a

variable {asked : Action → Prop} {r r' r'' : Rehearsal}

theorem Works.refl (r : Rehearsal) : Works asked r r where
  run := ⟨[], rfl, by simp⟩
  script := fun _ h => h

theorem Works.trans (h : Works asked r r') (h' : Works asked r' r'') : Works asked r r'' where
  run := by
    obtain ⟨before, session, allowed⟩ := h.run
    obtain ⟨after, session', allowed'⟩ := h'.run
    refine ⟨before ++ after, ?_, ?_⟩
    · rw [session', session, run_append]
    · intro a ha
      rcases List.mem_append.mp ha with ha | ha
      · exact allowed a ha
      · exact (allowed' a ha).imp_left (h.script a)
  script := fun a ha => h.script a (h'.script a ha)

/-- The same script, and a run of the session. -/
theorem Works.of_run {actions : List Action} (script : r'.script = r.script)
    (session : r'.session = r.session.run actions)
    (allowed : ∀ a ∈ actions, r.script.Allows a ∨ asked a) : Works asked r r' where
  run := ⟨actions, session, allowed⟩
  script := by
    rw [script]
    exact fun _ h => h

/-- The same script, and one step of the session. -/
theorem Works.of_act (a : Action) (script : r'.script = r.script)
    (session : r'.session = r.session.act a) (allowed : r.script.Allows a ∨ asked a) :
    Works asked r r' := by
  have session' : r'.session = r.session.run [a] := session
  refine .of_run script session' fun b hb => ?_
  rw [List.mem_singleton.mp hb]
  exact allowed

/-- A script lets no time pass. -/
theorem Works.clock_eq (h : Works asked r r') (still : ∀ ms, ¬ asked (.advance ms)) :
    r'.session.clock = r.session.clock := by
  obtain ⟨actions, session, allowed⟩ := h.run
  rw [session, run_clock]
  intro ms passes
  rcases allowed _ passes with no | no
  · exact no
  · exact still ms no

/-! ## §2. The parts of a round. -/

/-- **The queue is handled by as many steps as there are messages.** -/
theorem drain_session (r : Rehearsal) :
    r.drain.2.session = r.session.run (r.session.inbox.map fun _ => .handleNext) := by
  -- the messages only count the steps, and the answers do not matter
  have fold : ∀ (messages : List Message) (acc : Option (Except RequestError Accepted) × Coordinator),
      (messages.foldl (fun acc _ => (acc.2.handleNext.1.or acc.1, acc.2.handleNext.2)) acc).2
        = acc.2.run (messages.map fun _ => .handleNext) := by
    intro messages
    induction messages with
    | nil => exact fun _ => rfl
    | cons m messages ih => exact fun acc => ih _
  exact fold r.session.inbox (none, r.session)

/-- **Each call that waits is attempted.** -/
theorem deliverAll_session (r : Rehearsal) :
    r.deliverAll.session
      = r.session.run (r.session.outbox.map fun _ => .callNext r.script.calls) := by
  rw [run, List.foldl_map]
  rfl

theorem callbacks_session (cbs : List Callback) (r : Rehearsal) :
    (r.callbacks cbs).session = r.session.run (cbs.map .callback) := by
  rw [run, List.foldl_map]
  rfl

/-- **A pull is answered by its result**, after the callbacks from inside it. -/
theorem answerPull_session (i : Nat) (r : Rehearsal) :
    (r.answerPull i).session = r.session.run (r.script.duringPull.map .callback
      ++ [.endPull i (Snapshot.ofAnswers r.script.status r.script.peers), .report i]) := by
  rw [run_append, ← callbacks_session]
  rfl

theorem drain_works (r : Rehearsal) : Works asked r r.drain.2 := by
  refine .of_run rfl r.drain_session fun a ha => ?_
  obtain ⟨-, -, rfl⟩ := List.mem_map.mp ha
  exact .inl trivial

theorem deliverAll_works (r : Rehearsal) : Works asked r r.deliverAll := by
  refine .of_run rfl r.deliverAll_session fun a ha => ?_
  obtain ⟨-, -, rfl⟩ := List.mem_map.mp ha
  exact .inl rfl

theorem answerPull_works (i : Nat) (r : Rehearsal) : Works asked r (r.answerPull i) where
  run := by
    refine ⟨_, r.answerPull_session i, fun a ha => .inl ?_⟩
    rcases List.mem_append.mp ha with inside | last
    · obtain ⟨cb, hcb, rfl⟩ := List.mem_map.mp inside
      exact hcb
    · simp only [List.mem_cons, List.not_mem_nil, or_false] at last
      rcases last with rfl | rfl
      · rfl
      · trivial
  script := by
    -- the callbacks from inside come once
    intro a ha
    cases a with
    | callback cb => cases ha
    | _ => exact ha

/-- **The next pull is begun and answered by steps of the session.** -/
theorem pullNext?_works (pulled : r.pullNext? = some r') : Works asked r r' := by
  unfold pullNext? at pulled
  split at pulled
  next i waiting =>
    have begun : Works asked r { r with session := r.session.beginRefresh i } :=
      .of_act (.beginRefresh i) rfl rfl (.inl trivial)
    dsimp only at pulled
    split at pulled
    next goesOn =>
      injection pulled with pulled
      rw [← pulled]
      exact begun.trans (answerPull_works ..)
    next =>
      injection pulled with pulled
      rw [← pulled]
      exact begun
  next nobody =>
    split at pulled
    next i due =>
      have begun : Works asked r { r with session := r.session.beginTimed i } :=
        .of_act (.beginTimed i) rfl rfl (.inl trivial)
      injection pulled with pulled
      rw [← pulled]
      exact begun.trans (answerPull_works ..)
    next => cases pulled

/-! ## §3. Whole steps. -/

theorem settleWithin_works (n : Nat) (r : Rehearsal) : Works asked r (settleWithin n r) := by
  induction n generalizing r with
  | zero => exact .refl r
  | succ n ih =>
      have round : Works asked r r.drain.2.deliverAll :=
        (drain_works r).trans (deliverAll_works _)
      unfold settleWithin
      dsimp only
      split
      next pulled => exact (round.trans (pullNext?_works pulled)).trans (ih _)
      next => exact round

theorem settle_works (r : Rehearsal) : Works asked r r.settle := settleWithin_works r.rounds r

theorem settle_clock (r : Rehearsal) : r.settle.session.clock = r.session.clock :=
  have works : Works (fun _ => False) r r.settle := settle_works r
  works.clock_eq fun _ h => h

/-- Time passes. -/
def Passes (a : Action) : Prop := ∃ ms, a = .advance ms

theorem pass_works (ms : Nat) (r : Rehearsal) :
    Works Passes r { r with session := r.session.advance ms } :=
  .of_act (.advance ms) rfl rfl (.inr ⟨ms, rfl⟩)

theorem advanceWithin_works (limit n : Nat) (r : Rehearsal) :
    Works Passes r (advanceWithin limit n r) := by
  induction n generalizing r with
  | zero => exact .refl r
  | succ n ih =>
      unfold advanceWithin
      split
      next t next =>
        dsimp only
        exact ((pass_works (t - r.session.clock) r).trans (settle_works _)).trans (ih _)
      next => exact pass_works (limit - r.session.clock) r

theorem advance_works (ms : Nat) (r : Rehearsal) : Works Passes r (r.advance ms) :=
  advanceWithin_works _ _ r

/-- A pull that is looked for up to a limit is not after it. -/
theorem nextTime?_le {limit t : Nat} (next : r.nextTime? limit = some t) : t ≤ limit := by
  have listed := List.min?_mem next
  obtain ⟨l, -, due⟩ := List.mem_filterMap.mp listed
  split at due
  next => cases due
  next =>
    obtain ⟨-, le⟩ := Option.filter_eq_some_iff.mp due
    exact of_decide_eq_true le

theorem advanceWithin_clock_le {limit : Nat} (n : Nat) {r : Rehearsal}
    (before : r.session.clock ≤ limit) :
    (advanceWithin limit n r).session.clock ≤ limit := by
  induction n generalizing r with
  | zero => exact before
  | succ n ih =>
      unfold advanceWithin
      split
      next t next =>
        refine ih ?_
        rw [settle_clock]
        show r.session.clock + (t - r.session.clock) ≤ limit
        have le := nextTime?_le next
        omega
      next =>
        show r.session.clock + (limit - r.session.clock) ≤ limit
        omega

/-- **No pull is waited for beyond the time that is to pass.** -/
theorem advance_clock_le (ms : Nat) (r : Rehearsal) :
    (r.advance ms).session.clock ≤ r.session.clock + ms :=
  advanceWithin_clock_le (ms + 2) (Nat.le_add_right ..)

theorem request_works (q : Request) (r : Rehearsal) :
    Works (· = .request q) r (r.request q).2 := by
  have submitted : Works (· = .request q) r { r with session := (r.session.submit q).2 } :=
    .of_act (.request q) rfl rfl (.inr rfl)
  unfold request
  split
  next e session made =>
    rw [made] at submitted
    exact submitted
  next session made =>
    rw [made] at submitted
    exact submitted.trans (drain_works _)

/-! ## §4. The main result. -/

/-- What a rehearsal does to its session. -/
structure StepsOfItsSession (r : Rehearsal) : Prop where
  /-- Callbacks are sent, one after the other. -/
  callbacks : ∀ cbs, (r.callbacks cbs).session = r.session.run (cbs.map .callback)
  /-- A request is made, and messages are handled until it has its answer. -/
  request : ∀ q, Works (· = .request q) r (r.request q).2
  /-- Work that is due is done, and nothing else. -/
  settle : Works (fun _ => False) r r.settle
  /-- Time passes, and work that is due is done. -/
  advance : ∀ ms, Works Passes r (r.advance ms)
  /-- No more time passes than is to pass. -/
  clock : ∀ ms, (r.advance ms).session.clock ≤ r.session.clock + ms
  /-- So it is at the end of a step. -/
  finishStep : Works Passes r r.finishStep

/-- **All that a rehearsal does are steps of its session**, and besides what it is
told to do only such as its script calls for. -/
theorem rehearsals_take_steps_of_their_session (r : Rehearsal) : StepsOfItsSession r where
  callbacks := fun cbs => r.callbacks_session cbs
  request := fun q => r.request_works q
  settle := r.settle_works
  advance := fun ms => r.advance_works ms
  clock := fun ms => r.advance_clock_le ms
  finishStep := ((settle_works r).trans (advance_works 1 _)).trans (settle_works _)

end Rehearsal

end TunnelControl
