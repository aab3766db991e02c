/-
  TunnelControl.Proofs.Session.Calls
  ──────────────────────────────────
  **WHAT THE ENGINE IS TOLD.**

  Calls are queued when a request is handled, at most one a request, and
  attempted in the order they were queued.  A connect call carries the text
  of a config that passed the checks, for no other one gets into the queue;
  so whatever was asked for, the engine gets a body it can work with.

    • `callsOf`, `handle_calls`   — the calls that a message queues,
    • `ConnectsChecked`           — the invariant,
    • `connect_bodies_are_sound`.
-/
import TunnelControl.Proofs.Connection.Sound
import TunnelControl.Proofs.Session.Steps

namespace TunnelControl.Coordinator

/-! ## §1. The calls of one message. -/

/-- A call, where there is a worker to take it. -/
def queueable (e : EngineCall) (c : Coordinator) : List EngineCall :=
  if c.workerEnded then [] else [e]

/-- The calls that are queued when a message is handled. -/
def callsOf (m : Message) (c : Coordinator) : List EngineCall :=
  match m with
  | .command (.connect config) =>
      if c.state.value.isConnected then [] else c.queueable (.connect config.json)
  | .command .disconnect => c.queueable .disconnect
  | .command (.switchOrg org) => c.queueable (.switchOrg org)
  | .command (.updateSettings body) => c.queueable (.updateSettings body)
  | .command .refresh => []
  | .callback _ => []
  | .pulled .. => []

theorem mem_queueable {e e' : EngineCall} {c : Coordinator} (h : e' ∈ c.queueable e) : e' = e := by
  unfold queueable at h
  split at h
  next => cases h
  next => exact List.mem_singleton.mp h

theorem call_calls (e : EngineCall) (c : Coordinator) :
    (c.call e).2.outbox = c.outbox ++ c.queueable e ∧ (c.call e).2.attempted = c.attempted := by
  rcases call_cases e c with ⟨works, called⟩ | ⟨ended, refused⟩
  · rw [called]
    exact ⟨by simp [queueable, works], rfl⟩
  · rw [refused]
    exact ⟨by simp [queueable, ended], rfl⟩

/-- A callback queues no call. -/
theorem onCallback_calls (cb : Callback) (c : Coordinator) :
    (c.onCallback cb).outbox = c.outbox ∧ (c.onCallback cb).attempted = c.attempted := by
  rcases onCallback_cases cb c with ⟨body, -, e⟩ | ⟨-, e⟩ | ⟨next, -, -, e⟩
  · rw [e]
    rcases onPeerUpdate_cases body c with e | ⟨-, ps, e⟩
    · rw [e]
      exact ⟨rfl, rfl⟩
    · rw [e]
      exact ⟨rfl, rfl⟩
  · rw [e]
    exact ⟨rfl, rfl⟩
  · rw [e]
    obtain ⟨epoch, poll, loops, e⟩ := move_frame next c
    rw [e]
    exact ⟨rfl, rfl⟩

/-- **Handling a message queues its calls and attempts none.** -/
theorem handle_calls (m : Message) (c : Coordinator) :
    (c.handle m).2.outbox = c.outbox ++ c.callsOf m ∧ (c.handle m).2.attempted = c.attempted := by
  cases m with
  | callback cb =>
      have h := onCallback_calls cb c
      exact ⟨h.1.trans (List.append_nil _).symm, h.2⟩
  | command command =>
      cases command with
      | connect config =>
          show (c.onConnect config).2.outbox = _ ∧ (c.onConnect config).2.attempted = _
          rcases onConnect_cases config c with ⟨busy, e⟩ | ⟨free, works, e⟩ | ⟨free, ended, e⟩
          · rw [e]
            exact ⟨by simp [callsOf, busy], rfl⟩
          · rw [e]
            exact ⟨by simp [callsOf, queueable, free, works], rfl⟩
          · rw [e]
            exact ⟨by simp [callsOf, queueable, free, ended], rfl⟩
      | disconnect => exact call_calls _ c
      | switchOrg org => exact call_calls _ c
      | updateSettings body => exact call_calls _ c
      | refresh =>
          show c.onRefresh.2.outbox = c.outbox ++ [] ∧ c.onRefresh.2.attempted = c.attempted
          rw [List.append_nil]
          unfold onRefresh
          split
          next => exact ⟨rfl, rfl⟩
          next => exact ⟨rfl, rfl⟩
  | pulled number epoch snapshot =>
      show (c.onPulled epoch snapshot).outbox = c.outbox ++ []
        ∧ (c.onPulled epoch snapshot).attempted = c.attempted
      rw [List.append_nil]
      rcases onPulled_cases epoch snapshot c with e | ⟨-, -, s, -, e⟩
      · rw [e]
        exact ⟨rfl, rfl⟩
      · rw [e]
        exact ⟨rfl, rfl⟩

/-- The text of a connect call is that of a config that passed the checks. -/
theorem checked_of_mem_callsOf {m : Message} {c : Coordinator} {body : String}
    (h : .connect body ∈ c.callsOf m) : ∃ config : ValidatedConfig, body = config.json := by
  unfold callsOf at h
  split at h
  next config =>
    split at h
    next => cases h
    next =>
      injection mem_queueable h with h
      exact ⟨config, h⟩
  next => cases mem_queueable h
  next => cases mem_queueable h
  next => cases mem_queueable h
  next => cases h
  next => cases h
  next => cases h

/-! ## §2. Every run. -/

/-- Every connect call, attempted or waiting, carries the text of a config that
passed the checks. -/
def ConnectsChecked (c : Coordinator) : Prop :=
  ∀ body, .connect body ∈ c.attempted ++ c.outbox → ∃ config : ValidatedConfig, body = config.json

theorem ConnectsChecked.change {a : Action} {c c' : Coordinator} (h : ConnectsChecked c)
    (step : Change a c c') : ConnectsChecked c' := by
  cases step with
  | aside clock outbox attempted workerEnded handles calls =>
      intro body hb
      exact h body (calls.subset hb)
  | sent => exact h
  | handled m rest =>
      obtain ⟨outbox, attempted⟩ := handle_calls m { c with inbox := rest }
      intro body hb
      rw [outbox, attempted, ← List.append_assoc] at hb
      -- a call that is not new was there before
      rcases List.mem_append.mp hb with hb | hb
      · exact h body hb
      · exact checked_of_mem_callsOf hb
  | begun => exact h
  | ended => exact h
  | staged => exact h
  | reported => exact h
  | stopped running =>
      intro body hb
      simp only [shutdown, running, Bool.false_eq_true, if_false, List.append_nil] at hb
      exact h body (List.mem_append_left _ hb)

theorem run_connectsChecked (interval : Nat) (actions : List Action) :
    ConnectsChecked ((start interval).run actions) := by
  refine run_induction (fun c a h => h.change (act_change a c)) ?_ actions
  intro body hb
  cases hb

/-- **Every body of a connect call is decoded to a sound body**, whatever was
requested and whatever else happened. -/
theorem connect_bodies_are_sound (interval : Nat) (actions : List Action) (body : String)
    (attempted : .connect body ∈ ((start interval).run actions).attempted) :
    ∃ config : ValidatedConfig, body = config.json
      ∧ Wire.ConnectBody.codec.decode body = .ok config.body ∧ config.body.Sound := by
  obtain ⟨config, rfl⟩ :=
    run_connectsChecked interval actions body (List.mem_append_left _ attempted)
  exact ⟨config, rfl, config.decode_json, config.sound⟩

/-- Of two requests the first has an MTU that is too small.  The body of the
second is trimmed, and its token keeps the characters that are escaped. -/
theorem connect_body_of_accepted_request_is_sound :
    let c := (start 5000).run
      [.request (.connect { endpoint := "vpn", mtu := 1 }),
        .request (.connect
          { endpoint := " vpn ", userToken := some " t\"ö", upstreamDns := [" ", "8.8.8.8:53 "] }),
        .handleNext, .callNext .delivered]
    let body := "\x7b\"endpoint\":\"vpn\",\"id\":\"\",\"secret\":\"\",\"userToken\":\"t\\\"ö\","
      ++ "\"orgId\":\"\",\"mtu\":1420,\"dns\":\"9.9.9.9\",\"upstreamDNS\":[\"8.8.8.8:53\"],"
      ++ "\"holepunch\":true,\"tunnelDNS\":false,\"overrideDNS\":false,"
      ++ "\"pingInterval\":\"3s\",\"pingTimeout\":\"5s\"\x7d"
    c.attempted = [.connect body] ∧ ∃ config : ValidatedConfig, body = config.json
      ∧ Wire.ConnectBody.codec.decode body = .ok config.body ∧ config.body.Sound := by
  intro c body
  have attempted : c.attempted = [.connect body] := by decide +kernel
  have delivered : .connect body ∈ c.attempted := by
    rw [attempted]
    exact List.mem_singleton_self _
  exact ⟨attempted, connect_bodies_are_sound 5000 _ body delivered⟩

end TunnelControl.Coordinator
