/-
  TunnelControl.Proofs.CommandLine.Rendering
  ──────────────────────────────────────────
  **WHAT IS RENDERED IS WHAT IS SENT.**

  The config of settings can be printed, and a session can be asked to connect
  with it.  Both are accepted or rejected alike.  What is printed is another
  text than the one that is sent, with its members in another order and over
  several lines, and the engine would read the same body from it.

    • `answer`, `FreeTurn`            — a request and its turn,
    • `FreeTurn.connect_ok`, `answer_of_invalid` — a connect request,
    • `fits_body`, `decode_printed`, `decode_generic` — the two texts of a body,
    • `rendering`, `RendersWhatIsSent`, `rendered_config_is_what_is_sent`.
-/
import TunnelControl.Proofs.CommandLine.Secrecy
import TunnelControl.Proofs.Json.Generic
import TunnelControl.Proofs.Tunnel.Refusals

namespace TunnelControl

/-! ## §1. A request and its turn. -/

namespace Tunnel

/-- What has become of a tunnel when it was asked for something and then other
steps were taken. -/
def afterAsking (r : Request) (between : List Step) (t : Tunnel) : Tunnel :=
  (t.step (.session (.request r))).run between

/-- The answer to a request: at once if it is refused before it is queued, and
otherwise when it is handled after some steps. -/
def answer (r : Request) (between : List Step) (t : Tunnel) :
    Option (Except RequestError Accepted) :=
  match (t.session.submit r).1 with
  | .error e => some (.error e)
  | .ok () => (t.afterAsking r between).session.handleNext.1

/-- After these steps it is the turn of a request: all that waited when it was
made has been handled.  No shutdown has ended the work or the worker, and the
state is not Connected. -/
structure FreeTurn (r : Request) (between : List Step) (t : Tunnel) : Prop where
  running : t.session.stopped = false
  first : (t.step (.session (.request r))).handled between = t.session.inbox
  goesOn : (t.afterAsking r between).session.stopped = false
  works : (t.afterAsking r between).session.workerEnded = false
  free : (t.afterAsking r between).session.state.value.isConnected = false

variable {r : Request} {between : List Step} {t : Tunnel} {config : ConnectionConfig}

/-- With nothing waiting, it is the turn of a request at once. -/
theorem freeTurn_of_idle (r : Request) (running : t.session.stopped = false)
    (works : t.session.workerEnded = false) (idle : t.session.inbox = [])
    (free : t.session.state.value.isConnected = false) : FreeTurn r [] t := by
  have same : (t.session.submit r).2.state = t.session.state
      ∧ (t.session.submit r).2.stopped = t.session.stopped
      ∧ (t.session.submit r).2.workerEnded = t.session.workerEnded := by
    unfold Coordinator.submit
    cases r.prepare with
    | error cause => exact ⟨rfl, rfl, rfl⟩
    | ok command => simp [running, Coordinator.send]
  refine ⟨running, idle.symm, ?_, ?_, ?_⟩
  · exact same.2.1.trans running
  · exact same.2.2.trans works
  · show (t.session.submit r).2.state.value.isConnected = false
    rw [same.1]
    exact free

/-- A request that passes the check of its argument is the next message when it
is its turn. -/
theorem FreeTurn.next (h : FreeTurn r between t) {command : Command}
    (valid : r.prepare = .ok command) :
    (t.session.submit r).1 = .ok ()
      ∧ ∃ rest, (t.afterAsking r between).session.inbox = .command command :: rest := by
  have accepted : (t.session.submit r).1 = .ok () := by
    simp [Coordinator.submit, valid, h.running]
  obtain ⟨command', valid', behind⟩ := Coordinator.submit_ok accepted
  rw [valid] at valid'
  cases valid'
  have waits : WaitsBehind t.session.inbox (.command command) t (t.step (.session (.request r))) :=
    ⟨behind, rfl, rfl⟩
  -- a request that waits is dropped only when the work ends
  rcases waits.run h.first with next | ⟨ended, -⟩
  · obtain ⟨rest, -, same⟩ := next.session
    exact ⟨accepted, rest, congrArg Coordinator.inbox same⟩
  · exact absurd ended (Bool.eq_false_iff.mp h.goesOn)

/-- **A connect request with a sound config is accepted in a free turn**, and
the call is queued that carries its body. -/
theorem FreeTurn.connect_ok (h : FreeTurn (.connect config) between t) {v : ValidatedConfig}
    (valid : config.validate = .ok v) :
    t.answer (.connect config) between = some (.ok .queued)
      ∧ ((t.afterAsking (.connect config) between).step (.session .handleNext)).session.outbox
        = (t.afterAsking (.connect config) between).session.outbox ++ [.connect v.json] := by
  have prepared : (Request.connect config).prepare = .ok (.connect v) := by
    simp [Request.prepare, valid, Except.map]
  obtain ⟨accepted, rest, next⟩ := h.next prepared
  have free := h.free
  have works := h.works
  unfold answer
  rw [accepted]
  generalize t.afterAsking (.connect config) between = t' at next free works ⊢
  -- the message is handled: the state is not Connected, and the worker goes on
  have handled : t'.session.handleNext
      = (some ({ t'.session with inbox := rest }.onConnect v).1,
        ({ t'.session with inbox := rest }.onConnect v).2) := by
    simp only [Coordinator.handleNext, next]
    rfl
  show t'.session.handleNext.1 = _ ∧ t'.session.handleNext.2.outbox = _
  rw [handled]
  simp [Coordinator.onConnect, Coordinator.call, free, works]

/-- A connect request with any other config is rejected at once. -/
theorem answer_of_invalid {cause : Rejected} (invalid : config.validate = .error cause)
    (between : List Step) (t : Tunnel) :
    t.answer (.connect config) between = some (.error (.rejected cause)) := by
  have prepared : (Request.connect config).prepare = .error cause := by
    simp [Request.prepare, invalid, Except.map]
  simp [answer, Coordinator.submit, prepared]

theorem FreeTurn.accepted_iff (h : FreeTurn (.connect config) between t) :
    t.answer (.connect config) between = some (.ok .queued) ↔ ∃ v, config.validate = .ok v := by
  cases checked : config.validate with
  | error cause => simp [answer_of_invalid checked]
  | ok v => simp [(h.connect_ok checked).1]

theorem FreeTurn.rejected_iff (h : FreeTurn (.connect config) between t) {cause : Rejected} :
    t.answer (.connect config) between = some (.error (.rejected cause))
      ↔ config.validate = .error cause := by
  cases checked : config.validate with
  | error cause' => simp [answer_of_invalid checked]
  | ok v => simp [(h.connect_ok checked).1]

end Tunnel

/-! ## §2. Two texts of one body. -/

namespace Wire.ConnectBody

open Json

variable (b : ConnectBody)

/-- A body can be read without knowing its type. -/
theorem fits_body (depth : Nat) : Fits (depth + 2) (codec.toValue b) := by
  have mtu : b.mtu.toNat < UInt16.size := b.mtu.toNat_lt
  have low : Int64.minValue.toInt ≤ (b.mtu.toNat : Int) :=
    Int.le_trans (by decide) (Int.natCast_nonneg b.mtu.toNat)
  have high : (b.mtu.toNat : Int) < UInt64.size := by
    have : (UInt16.size : Int) < UInt64.size := by decide
    omega
  have servers : ∀ v ∈ b.upstreamDns.map Value.text, Fits depth v := by
    intro v hv
    obtain ⟨server, -, rfl⟩ := List.mem_map.mp hv
    exact .text server
  rw [ConnectionConfig.toValue_body]
  refine .record ?_ ?_
  · -- the names are the same for every body but for the token, which may be missing
    cases b.userToken <;>
      simp [ConnectionConfig.tokenMember, ConnectionConfig.membersBehind]
  · have token : ∀ m ∈ ConnectionConfig.tokenMember b.userToken, Fits (depth + 1) m.2 := by
      intro m hm
      obtain ⟨token, -, rfl⟩ := Option.map_eq_some_iff.mp (Option.mem_toList.mp hm)
      exact .text token
    simp only [List.forall_mem_cons, List.forall_mem_append, ConnectionConfig.membersBehind]
    exact ⟨.text _, .text _, .text _, token, .text _, .integer low high, .text _,
      .sequence servers, .boolean _, .boolean _, .boolean _, .text _, .text _, by simp⟩

/-- **What is printed of a body is decoded to it.** -/
theorem decode_printed :
    codec.decode (CommandLine.printed true (codec.toValue b)).stdout = .ok b := by
  have blank : Spaces ['\n'] := by
    intro c hc
    rw [List.mem_singleton.mp hc]
    decide
  exact codec_lawful.decode_sorted (fits_body b 0) blank

/-- **The text of a body, read as any JSON, is what is printed of it.** -/
theorem decode_generic :
    Codec.value.decode (codec.encode b) = .ok (codec.toValue b).sorted :=
  (fits_body b 125).decode_of_spells (spells_compact (codec.toValue b))

end Wire.ConnectBody

/-! ## §3. The main result. -/

namespace CommandLine

open Json

/-- What is printed of the config of settings with all credentials, or why there
is none. -/
def rendering (s : Settings) : Except Failure Output :=
  match renderedConfig s with
  | .ok v => .ok (printed true v)
  | .error r => .error (.invalidSettings r)

theorem rendering_eq (s : Settings) : rendering s = match s.validated with
    | .ok v => .ok (printed true (Wire.ConnectBody.codec.toValue v.body))
    | .error r => .error (.invalidSettings r) := by
  rw [rendering, renderedConfig_eq]
  cases s.validated with
  | ok v => rfl
  | error r => rfl

/-- **There is a rendering exactly if the settings pass all checks.** -/
theorem rendering_eq_ok_iff {s : Settings} {out : Output} : rendering s = .ok out ↔
    ∃ v, s.validated = .ok v ∧ out = printed true (Wire.ConnectBody.codec.toValue v.body) := by
  rw [rendering_eq]
  cases s.validated with
  | ok v => simp [eq_comm]
  | error r => simp

/-- It fails for what the checks find. -/
theorem rendering_eq_error_iff {s : Settings} {e : Failure} : rendering s = .error e ↔
    ∃ cause, e = .invalidSettings cause ∧ s.validated = .error cause := by
  rw [rendering_eq]
  cases s.validated with
  | ok v => simp
  | error r => simp [eq_comm]

/-- The command prints the rendering of the settings in its store, which stays
as it is. -/
theorem perform_renderConfig {σ : Type} (terminal : Terminal) (backend : SecretStore σ)
    (store : SettingsStore σ) :
    perform terminal backend (.renderConfig true) store = (rendering store.current, store) := by
  rw [perform, rendering]
  cases renderedConfig store.current with
  | ok v => rfl
  | error r => rfl

/-- How the rendering of settings agrees with a request to connect with them, in
whatever session it is made and whatever happens before its turn comes, as long
as the session is not Connected then, and not in a shutdown. -/
structure RendersWhatIsSent (s : Settings) : Prop where
  /-- A run that is asked for the config with its credentials, and whose store
  holds the settings, prints their rendering or fails with it. -/
  runs : ∀ around words m i config, prepare around words m.files = .ok (i, config) →
    i.command = .onSettings (.renderConfig true) →
    (SettingsStore.load (i.store config) m).current = s → (run around words m).1 = rendering s
  /-- There is a rendering exactly if the settings can be converted and the
  session accepts to connect with them. -/
  accepted : ∀ (t : Tunnel) between,
    (∀ config, s.toConfig = .ok config → t.FreeTurn (.connect config) between) →
    ((∃ out, rendering s = .ok out) ↔
      ∃ config, s.toConfig = .ok config ∧ t.answer (.connect config) between = some (.ok .queued))
  /-- It fails for the problems for which they are not converted or the session
  rejects them, and for nothing else. -/
  rejected : ∀ (t : Tunnel) between,
    (∀ config, s.toConfig = .ok config → t.FreeTurn (.connect config) between) →
    ∀ e, rendering s = .error e ↔
      ∃ cause, e = .invalidSettings cause
        ∧ (s.toConfig = .error cause
          ∨ ∃ config, s.toConfig = .ok config
            ∧ t.answer (.connect config) between = some (.error (.rejected cause)))
  /-- What is printed is decoded to the body in the call that the session
  queues. -/
  sent : ∀ (t : Tunnel) between config out, s.toConfig = .ok config →
    t.FreeTurn (.connect config) between → rendering s = .ok out →
    let turn := t.afterAsking (.connect config) between
    ∃ text body, (turn.step (.session .handleNext)).session.outbox
        = turn.session.outbox ++ [.connect text]
      ∧ Wire.ConnectBody.codec.decode text = .ok body
      ∧ Wire.ConnectBody.codec.decode out.stdout = .ok body
  /-- It is the text of that call, read as any JSON and laid out over several
  lines; such a text can always be read. -/
  generic : ∀ v, s.validated = .ok v → ∃ value, Codec.value.decode v.json = .ok value
    ∧ rendering s = .ok { stdout := value.pretty ++ "\n" }

/-- **What is rendered of settings is what would be sent**: it is printed if and
only if a session that is not Connected would accept to connect with them, and
the engine would read the same body from it. -/
theorem rendered_config_is_what_is_sent (s : Settings) : RendersWhatIsSent s where
  runs := by
    intro around words m i config prepared asked held
    rw [run_of_onSettings prepared asked, perform_renderConfig, held]
  accepted := by
    intro t between turn
    constructor
    · rintro ⟨out, printed⟩
      obtain ⟨v, checked, -⟩ := rendering_eq_ok_iff.mp printed
      obtain ⟨config, converted, valid⟩ := bind_eq_ok_iff.mp checked
      exact ⟨config, converted, (turn config converted).accepted_iff.mpr ⟨v, valid⟩⟩
    · rintro ⟨config, converted, accepted⟩
      obtain ⟨v, valid⟩ := (turn config converted).accepted_iff.mp accepted
      have checked : s.validated = .ok v := bind_eq_ok_iff.mpr ⟨config, converted, valid⟩
      exact ⟨_, rendering_eq_ok_iff.mpr ⟨v, checked, rfl⟩⟩
  rejected := by
    intro t between turn e
    rw [rendering_eq_error_iff]
    refine exists_congr fun cause => and_congr_right fun _ => ?_
    rw [Settings.validated, bind_eq_error_iff]
    refine or_congr_right (exists_congr fun config => and_congr_right fun converted => ?_)
    exact (turn config converted).rejected_iff.symm
  sent := by
    intro t between config out converted turn printed
    obtain ⟨v, checked, rfl⟩ := rendering_eq_ok_iff.mp printed
    obtain ⟨config', converted', valid⟩ := bind_eq_ok_iff.mp checked
    rw [converted] at converted'
    cases converted'
    exact ⟨v.json, v.body, (turn.connect_ok valid).2, v.decode_json, v.body.decode_printed⟩
  generic := by
    intro v valid
    refine ⟨_, v.body.decode_generic, ?_⟩
    rw [rendering_eq, valid]
    rfl

/-- A password with a quote in it, and a session that begins: the text that is
printed is not the one that is sent. -/
example :
    let s : Settings := { endpoint := "vpn", id := "a", secret := "b\"c", orgId := "o" }
    let t := Tunnel.start 5000
    ∃ config out text, s.toConfig = .ok config ∧ t.FreeTurn (.connect config) []
      ∧ t.answer (.connect config) [] = some (.ok .queued) ∧ rendering s = .ok out
      ∧ ((t.afterAsking (.connect config) []).step (.session .handleNext)).session.outbox
        = [.connect text]
      ∧ text ≠ out.stdout :=
  ⟨_, _, _, rfl, Tunnel.freeTurn_of_idle _ rfl rfl rfl rfl, rfl, rfl, rfl, by decide +kernel⟩

end CommandLine

end TunnelControl
