/-
  TunnelControl.Proofs.Session.Answers
  ────────────────────────────────────
  **BAD ANSWERS DO NO HARM.**

  The engine may refuse a question, answer it with a text that cannot be
  decoded, or not come to an end; and it may push such a text.  Whatever of an
  answer can be decoded replaces its view as a whole, and the rest leaves no
  trace.  The loop that polls takes every end of a pull alike and begins the
  next one when it is due.

    • `Reads`, `Spoils`              — what an answer is worth,
    • `Snapshot.ofAnswers_both`, …   — the snapshot of two answers,
    • `PullNext.handle`              — a result that counts,
    • `TakesWhatIsReadable`          — what becomes of answers,
    • `KeepsPulling`                 — the pulls to come,
    • `bad_answers_do_no_harm`.
-/
import TunnelControl.Proofs.Session.PullSchedule

namespace TunnelControl

/-! ## §1. Answers. -/

namespace PullAnswer

variable {α : Type} (decode : String → Except EngineError α)

/-- A body was delivered and can be decoded. -/
def Reads (answer : PullAnswer) (a : α) : Prop :=
  ∃ text, answer = .body text ∧ decode text = .ok a

/-- The question was refused, or the body cannot be decoded. -/
def Spoils (answer : PullAnswer) : Prop :=
  answer = .failed ∨ ∃ text e, answer = .body text ∧ decode text = .error e

end PullAnswer

namespace Snapshot

open PullAnswer

variable {status peers : PullAnswer} {s : Wire.Status} {ps : List Wire.Peer}

theorem ofAnswers_both (hs : status.Reads Wire.Status.decode s)
    (hp : peers.Reads Wire.Peer.decodeList ps) : ofAnswers status peers = some (.both s ps) := by
  obtain ⟨text, rfl, decoded⟩ := hs
  obtain ⟨text', rfl, decoded'⟩ := hp
  simp [ofAnswers, decoded, decoded', Except.toOption]

theorem ofAnswers_peers (hs : status.Spoils Wire.Status.decode)
    (hp : peers.Reads Wire.Peer.decodeList ps) : ofAnswers status peers = some (.peers ps) := by
  obtain ⟨text', rfl, decoded'⟩ := hp
  rcases hs with rfl | ⟨text, e, rfl, decoded⟩
  · simp [ofAnswers, decoded', Except.toOption]
  · simp [ofAnswers, decoded, decoded', Except.toOption]

theorem ofAnswers_status (hs : status.Reads Wire.Status.decode s)
    (hp : peers.Spoils Wire.Peer.decodeList) : ofAnswers status peers = some (.status s) := by
  obtain ⟨text, rfl, decoded⟩ := hs
  rcases hp with rfl | ⟨text', e, rfl, decoded'⟩
  · simp [ofAnswers, decoded, Except.toOption]
  · simp [ofAnswers, decoded, decoded', Except.toOption]

theorem ofAnswers_spoiled (hs : status.Spoils Wire.Status.decode)
    (hp : peers.Spoils Wire.Peer.decodeList) : ofAnswers status peers = none := by
  rcases hs with rfl | ⟨text, e, rfl, decoded⟩ <;> rcases hp with rfl | ⟨text', e', rfl, decoded'⟩
  · rfl
  · simp [ofAnswers, decoded', Except.toOption]
  · simp [ofAnswers, decoded, Except.toOption]
  · simp [ofAnswers, decoded, decoded', Except.toOption]

/-- A question that does not come to an end takes the other answer with it. -/
theorem ofAnswers_panicked (h : status = .panicked ∨ peers = .panicked) :
    ofAnswers status peers = none := by
  rcases h with rfl | rfl
  · rfl
  · cases status <;> rfl

end Snapshot

namespace Coordinator

/-! ## §2. What is taken. -/

/-- The result of a pull of this epoch is the next message, with the snapshot
of these answers, and the state is Connected. -/
structure PullNext (status peers : PullAnswer) (rest : List Message) (c : Coordinator) : Prop where
  /-- The message. -/
  next : ∃ number, c.inbox = .pulled number c.epoch (Snapshot.ofAnswers status peers) :: rest
  /-- The state. -/
  connected : c.state.value = .connected

/-- **A result that counts is applied as a whole, if there is one.** -/
theorem PullNext.handle {status peers : PullAnswer} {rest : List Message} {c : Coordinator}
    (h : c.PullNext status peers rest) :
    c.act .handleNext = match Snapshot.ofAnswers status peers with
      | some s => { c with inbox := rest, views := c.views.apply c.clock s }
      | none => { c with inbox := rest } := by
  obtain ⟨⟨number, next⟩, connected⟩ := h
  have counts : ¬ (c.epoch ≠ c.epoch ∨ (!c.state.value.isConnected) = true) := by
    simp [connected, ConnectionState.isConnected]
  rw [handleNext_pulled next]
  show (if _ then _ else _) = _
  rw [if_neg counts]
  cases Snapshot.ofAnswers status peers with
  | none => rfl
  | some s => rfl

/-- A peer list that cannot be decoded is dropped, in every state. -/
theorem onPeerUpdate_of_error {body : String} {e : EngineError} (c : Coordinator)
    (bad : Wire.Peer.decodeList body = .error e) : c.onPeerUpdate body = c := by
  unfold onPeerUpdate
  split
  next => rfl
  next => rw [bad]

/-! ## §3. The main result. -/

/-- What becomes of what the engine pushes and answers, in a state of a
session. -/
structure TakesWhatIsReadable (c : Coordinator) : Prop where
  /-- A pushed peer list that cannot be decoded leaves no trace. -/
  pushed : ∀ body e rest, Wire.Peer.decodeList body = .error e →
    c.inbox = .callback (.peerUpdate body) :: rest → c.act .handleNext = { c with inbox := rest }
  /-- Two answers that can be decoded replace both views. -/
  both : ∀ {status peers s ps rest}, c.PullNext status peers rest →
    status.Reads Wire.Status.decode s → peers.Reads Wire.Peer.decodeList ps →
    c.act .handleNext = { c with
      inbox := rest
      views.peers := c.views.peers.publish (canonicalize ps)
      views.status := c.views.status.publish (some (Views.canonicalStatus s))
      views.lastUpdate := some c.clock }
  /-- A good peer list with a bad status replaces the peers alone. -/
  peers : ∀ {status peers ps rest}, c.PullNext status peers rest →
    status.Spoils Wire.Status.decode → peers.Reads Wire.Peer.decodeList ps →
    c.act .handleNext = { c with
      inbox := rest
      views.peers := c.views.peers.publish (canonicalize ps)
      views.lastUpdate := some c.clock }
  /-- A good status with a bad peer list replaces the status alone. -/
  status : ∀ {status peers s rest}, c.PullNext status peers rest →
    status.Reads Wire.Status.decode s → peers.Spoils Wire.Peer.decodeList →
    c.act .handleNext = { c with
      inbox := rest
      views.status := c.views.status.publish (some (Views.canonicalStatus s))
      views.lastUpdate := some c.clock }
  /-- Two bad answers leave no trace. -/
  neither : ∀ {status peers rest}, c.PullNext status peers rest →
    status.Spoils Wire.Status.decode → peers.Spoils Wire.Peer.decodeList →
    c.act .handleNext = { c with inbox := rest }
  /-- A question that does not come to an end leaves none either, whatever the
  other answer is. -/
  panicked : ∀ {status peers rest}, c.PullNext status peers rest →
    status = .panicked ∨ peers = .panicked → c.act .handleNext = { c with inbox := rest }

theorem takesWhatIsReadable (c : Coordinator) : TakesWhatIsReadable c where
  pushed := by
    intro body e rest bad next
    rw [handleNext_cons next]
    exact onPeerUpdate_of_error _ bad
  both := by
    intro status peers s ps rest next readsStatus readsPeers
    rw [next.handle, Snapshot.ofAnswers_both readsStatus readsPeers]
    rfl
  peers := by
    intro status peers ps rest next spoils reads
    rw [next.handle, Snapshot.ofAnswers_peers spoils reads]
    rfl
  status := by
    intro status peers s rest next reads spoils
    rw [next.handle, Snapshot.ofAnswers_status reads spoils]
    rfl
  neither := by
    intro status peers rest next spoilsStatus spoilsPeers
    rw [next.handle, Snapshot.ofAnswers_spoiled spoilsStatus spoilsPeers]
  panicked := by
    intro status peers rest next panicked
    rw [next.handle, Snapshot.ofAnswers_panicked panicked]

/-- What holds of the pulls to come in a state of a session, whatever the
engine answers. -/
structure KeepsPulling (c : Coordinator) : Prop where
  /-- A pull of the loop that polls comes to its end, with a result in the queue.
  The loop goes on polling, and is free if it began the pull. -/
  ended : ∀ k p status peers, c.pulls[k]? = some p → c.poll = some p.loop →
    let answers := Snapshot.ofAnswers status peers
    let after := c.run (toEnd k answers)
    after.inbox = c.inbox ++ [.pulled p.number p.epoch (resultOr p answers)]
      ∧ after.poll = some p.loop ∧ after.epoch = c.epoch
      ∧ (p.timed = true → ∃ l, after.loops[p.loop]? = some l ∧ l.busy = false)
  /-- The loop that polls is free, or has a pull under way. -/
  free : ∀ i l, c.poll = some i → c.loops[i]? = some l → l.busy = false ∨ c.PullsFor i
  /-- A free loop begins its next pull, of the epoch of the moment, when the
  interval has passed at the latest.  With an interval of zero it begins one
  pull only. -/
  next : ∀ i l, c.poll = some i → c.loops[i]? = some l → l.busy = false → c.syncInterval ≠ 0 →
    ∃ wait ≤ c.syncInterval, ∀ ms, wait ≤ ms →
      (c.run [.advance ms, .beginTimed i]).pulls
        = c.pulls ++ [⟨c.started, i, c.epoch, true, .asked⟩]
  /-- A request for a pull while Connected starts one. -/
  refresh : ∀ rest, c.inbox = .command .refresh :: rest → c.state.value = .connected →
    ∃ i, c.poll = some i
      ∧ (c.act .handleNext).pulls = c.pulls ++ [⟨c.started, i, c.epoch, false, .waiting⟩]

theorem keepsPulling (interval : Nat) (actions : List Action) :
    KeepsPulling ((start interval).run actions) := by
  have inv := run_pollingInv interval actions
  have lives := run_loopLives interval actions
  have drained := run_drained interval actions
  have schedule := run_onSchedule interval actions
  have owned := run_busyPulls interval actions
  generalize (start interval).run actions = c at inv lives drained schedule owned
  constructor
  case ended =>
    intro k p status peers pull polls
    obtain ⟨l, loop, flag⟩ := (inv.poll_iff lives p.loop).mp polls
    have live : c.loopCancelled p.loop = false := by simp [loopCancelled, loop, flag]
    dsimp only
    rw [run_toEnd pull live (inv.isLive polls).2]
    exact ⟨rfl, polls, rfl, fun timed => closePull_free k timed live⟩
  case free =>
    intro i l polls loop
    cases busy : l.busy with
    | false => exact .inl rfl
    | true => exact .inr (owned i l loop busy)
  case next =>
    intro i l polls loop free repeated
    obtain ⟨l', loop', live⟩ := (inv.poll_iff lives i).mp polls
    rw [loop] at loop'
    cases loop'
    obtain ⟨t, due, within⟩ := schedule repeated l (List.mem_of_getElem? loop)
    refine ⟨t - c.clock, by omega, fun ms waited => ?_⟩
    rw [advance_beginTimed loop live free due (by omega), (inv.live i l loop live).2]
  case refresh =>
    intro rest next connected
    have polls : c.poll.isSome = true :=
      inv.poll_isSome_iff.mpr ⟨connected, drained.running next⟩
    obtain ⟨i, polls⟩ := Option.isSome_iff_exists.mp polls
    refine ⟨i, polls, ?_⟩
    rw [handleNext_cons next]
    show { c with inbox := rest }.onRefresh.2.pulls = _
    simp only [onRefresh, polls]
    rfl

/-- **Bad answers do no harm**: what can be decoded of the answers of a pull
replaces its view as a whole, the rest leaves no trace, and whatever the answers
are, the next pull comes when it is due. -/
theorem bad_answers_do_no_harm :
    (∀ c, TakesWhatIsReadable c)
      ∧ ∀ interval actions, KeepsPulling ((start interval).run actions) :=
  ⟨takesWhatIsReadable, keepsPulling⟩

/-- The first pull does not come to an end, and the next one, when it is due,
brings a peer list and no status. -/
example :
    let pull := fun status peers =>
      [Action.beginTimed 0, .endPull 0 (Snapshot.ofAnswers status peers), .report 0, .handleNext]
    let c := (start 5000).run ([.callback .connected, .handleNext]
      ++ pull .panicked (.body "[]") ++ [.advance 5000] ++ pull (.body "no JSON") (.body "[]"))
    c.started = 2 ∧ c.pulls.length = 0 ∧ c.views.lastUpdate = some 5000
      ∧ c.views.peers.version = 1 ∧ c.views.status.version = 0 := by
  decide +kernel

end Coordinator

end TunnelControl
