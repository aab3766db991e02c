/-
  TunnelControl.Proofs.Connection.Sound
  ─────────────────────────────────────
  **WHAT A CHECKED CONFIG PROMISES ABOUT THE BODY.**

  The checks look at a config as the caller wrote it; the promises are about
  the body, which is trimmed and rewritten.  Trimming makes nothing blank that
  was not so before, and the rewriting loses nothing.

    • `Wire.ConnectBody.Sound` — the promises,
    • `problems_eq_nil_iff`    — the checks, one by one,
    • `ValidatedConfig.sound`, `ValidatedConfig.decode_json`.
-/
import TunnelControl.Connection.Validate
import TunnelControl.Proofs.Duration.EngineText
import TunnelControl.Proofs.Text.Trim
import TunnelControl.Proofs.Wire.RoundTrip

namespace TunnelControl

/-! ## §1. The promises. -/

/-- In the notation of the engine, a time that is more than none. -/
def DenotesTime (text : String) : Prop :=
  ∃ d, Duration.ofEngineText? text = some d ∧ 0 < d.nanoseconds

/-- A body that the engine can work with. -/
structure Wire.ConnectBody.Sound (b : Wire.ConnectBody) : Prop where
  /-- There is a control server, without outer blanks. -/
  endpoint : b.endpoint ≠ "" ∧ Text.Trimmed b.endpoint
  /-- There is a user token without outer blanks, or there are a client, its
  secret and an organization. -/
  credentials : (∃ token, b.userToken = some token ∧ token ≠ "" ∧ Text.Trimmed token)
    ∨ (Text.isBlankText b.id = false ∧ Text.isBlankText b.secret = false
        ∧ Text.isBlankText b.orgId = false)
  /-- The MTU is within its bounds. -/
  mtu : 1280 ≤ b.mtu.toNat ∧ b.mtu.toNat ≤ 1500
  /-- No server is blank or has outer blanks. -/
  upstreamDns : ∀ server ∈ b.upstreamDns, Text.isBlankText server = false ∧ Text.Trimmed server
  /-- Pings have some time between them. -/
  pingInterval : DenotesTime b.pingInterval
  /-- Pings may take some time. -/
  pingTimeout : DenotesTime b.pingTimeout

namespace ConnectionConfig

/-! ## §2. The checks. -/

theorem problemUnless_eq_nil_iff {ok : Bool} {setting : Setting} {reason : Reason} :
    problemUnless ok setting reason = [] ↔ ok = true := by
  cases ok <;> simp [problemUnless]

/-- Nothing is wrong with a config if and only if it passes each check. -/
theorem problems_eq_nil_iff {c : ConnectionConfig} :
    c.problems = [] ↔ Text.isBlankText c.endpoint = false
      ∧ (c.token.isSome = true ∨ (Text.isBlankText c.id = false ∧ Text.isBlankText c.secret = false
          ∧ Text.isBlankText c.orgId = false))
      ∧ mtuInRange c.mtu.toNat = true ∧ c.pingInterval.isZero = false
      ∧ c.pingTimeout.isZero = false := by
  unfold problems
  cases ht : c.token.isSome with
  | true => simp [problemUnless_eq_nil_iff]
  | false => simp [problemUnless_eq_nil_iff, and_assoc]

/-! ## §3. The body. -/

/-- What is left of a text that is not blank is not empty. -/
theorem trim_ne_empty {s : String} (h : Text.isBlankText s = false) : Text.trim s ≠ "" := by
  intro he
  rw [Text.trim_eq_empty_iff.mp he] at h
  cases h

theorem isBlankText_eq_false {s : String} (h : Text.trim s ≠ "") :
    Text.isBlankText (Text.trim s) = false := by
  rw [Text.isBlankText_trim]
  cases hb : Text.isBlankText s with
  | false => rfl
  | true => exact absurd (Text.trim_of_isBlankText hb) h

theorem token_eq_some {c : ConnectionConfig} {token : String} (h : c.token = some token) :
    token ≠ "" ∧ Text.Trimmed token := by
  unfold ConnectionConfig.token at h
  obtain ⟨hsome, hfilled⟩ := Option.filter_eq_some_iff.mp h
  obtain ⟨raw, -, rfl⟩ := Option.map_eq_some_iff.mp hsome
  exact ⟨by simpa using hfilled, Text.trimmed_trim raw⟩

theorem mem_cleanServers {servers : List String} {server : String}
    (h : server ∈ cleanServers servers) :
    Text.isBlankText server = false ∧ Text.Trimmed server := by
  unfold cleanServers at h
  obtain ⟨hmem, hfilled⟩ := List.mem_filter.mp h
  obtain ⟨raw, -, rfl⟩ := List.mem_map.mp hmem
  exact ⟨isBlankText_eq_false (by simpa using hfilled), Text.trimmed_trim raw⟩

theorem mtuInRange_iff {n : Nat} : mtuInRange n = true ↔ 1280 ≤ n ∧ n ≤ 1500 := by
  unfold mtuInRange
  rw [Bool.and_eq_true, decide_eq_true_iff, decide_eq_true_iff]
  rfl

/-- An MTU within its bounds is the same number in 16 bits. -/
theorem toNat_toUInt16_inRange {mtu : UInt32} (h : mtuInRange mtu.toNat = true) :
    mtu.toUInt16.toNat = mtu.toNat := by
  have bounds := mtuInRange_iff.mp h
  rw [UInt32.toNat_toUInt16]
  exact Nat.mod_eq_of_lt (by omega)

theorem toUInt16_inRange {mtu : UInt32} (h : mtuInRange mtu.toNat = true) :
    1280 ≤ mtu.toUInt16.toNat ∧ mtu.toUInt16.toNat ≤ 1500 := by
  rw [toNat_toUInt16_inRange h]
  exact mtuInRange_iff.mp h

theorem denotesTime_engineText {d : Duration} (h : d.isZero = false) :
    DenotesTime d.engineText := by
  refine ⟨d, Duration.ofEngineText?_engineText d, ?_⟩
  unfold Duration.isZero at h
  have hne : d.nanoseconds ≠ 0 := by simpa using h
  omega

/-- **The body of a config without problems is sound.** -/
theorem body_sound {c : ConnectionConfig} (h : c.problems = []) : c.body.Sound := by
  obtain ⟨endpoint, credentials, mtu, pingInterval, pingTimeout⟩ := problems_eq_nil_iff.mp h
  refine ⟨?_, ?_, toUInt16_inRange mtu, fun server hs => mem_cleanServers hs,
    denotesTime_engineText pingInterval, denotesTime_engineText pingTimeout⟩
  · exact ⟨trim_ne_empty endpoint, Text.trimmed_trim c.endpoint⟩
  · rcases credentials with htoken | ⟨id, secret, orgId⟩
    · obtain ⟨token, htoken⟩ := Option.isSome_iff_exists.mp htoken
      exact .inl ⟨token, htoken, token_eq_some htoken⟩
    · refine .inr ⟨?_, secret, ?_⟩
      · exact (Text.isBlankText_trim c.id).trans id
      · exact (Text.isBlankText_trim c.orgId).trans orgId

end ConnectionConfig

namespace ValidatedConfig

/-- **A body that passed the checks is sound.** -/
theorem sound (v : ValidatedConfig) : v.body.Sound := by
  obtain ⟨c, passed, same⟩ := v.checked
  rw [← same]
  exact c.body_sound passed

/-- The text that the connect call carries is decoded to the body. -/
theorem decode_json (v : ValidatedConfig) : Wire.ConnectBody.codec.decode v.json = .ok v.body :=
  Wire.ConnectBody.codec_lawful.decode_encode v.body

end ValidatedConfig

end TunnelControl
