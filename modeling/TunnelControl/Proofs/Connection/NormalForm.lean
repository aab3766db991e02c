/-
  TunnelControl.Proofs.Connection.NormalForm
  ──────────────────────────────────────────
  **A CHECKED CONFIG IS IN ITS NORMAL FORM.**

  The body of a config that is accepted says what the config said, without
  outer blanks and blank servers.  Read as a config once more, with the same
  times, it is accepted again and yields the same body: each of the rewritings
  leaves alone what it has produced.

    • `Canonical`             — what a body has of its config,
    • `ofBody`                — a body as a config,
    • `canonical_body`        — the body of an acceptable config,
    • `body_ofBody`, `problems_ofBody` — nothing changes the second time,
    • `accepted_configs_have_normal_forms`.
-/
import Mathlib.Data.List.Forall2
import TunnelControl.Proofs.Connection.Sound

namespace TunnelControl.ConnectionConfig

/-! ## §1. The normal form. -/

/-- A body says what a config says, without outer blanks and blank entries. -/
structure Canonical (c : ConnectionConfig) (b : Wire.ConnectBody) : Prop where
  endpoint : Text.TrimsTo c.endpoint b.endpoint
  id : Text.TrimsTo c.id b.id
  orgId : Text.TrimsTo c.orgId b.orgId
  dns : Text.TrimsTo c.dns b.dns
  /-- The secret is passed on as it is. -/
  secret : b.secret = c.secret
  /-- The token is there exactly if there is one that is more than blanks. -/
  userToken : ∀ token, b.userToken = some token
    ↔ token ≠ "" ∧ ∃ raw, c.userToken = some raw ∧ Text.TrimsTo raw token
  /-- The MTU is the same number in fewer bits. -/
  mtu : b.mtu.toNat = c.mtu.toNat
  /-- The servers that are more than blanks, in their order. -/
  upstreamDns : List.Forall₂ Text.TrimsTo
    (c.upstreamDns.filter fun server => !Text.isBlankText server) b.upstreamDns
  holepunch : b.holepunch = c.holepunch
  tunnelDns : b.tunnelDns = c.tunnelDns
  overrideDns : b.overrideDns = c.overrideDns
  pingInterval : Duration.ofEngineText? b.pingInterval = some c.pingInterval
  pingTimeout : Duration.ofEngineText? b.pingTimeout = some c.pingTimeout

/-- The config that asks for what a body says, with the times as they were given. -/
def ofBody (b : Wire.ConnectBody) (interval timeout : Duration) : ConnectionConfig where
  endpoint := b.endpoint
  id := b.id
  secret := b.secret
  userToken := b.userToken
  orgId := b.orgId
  mtu := b.mtu.toUInt32
  dns := b.dns
  upstreamDns := b.upstreamDns
  holepunch := b.holepunch
  tunnelDns := b.tunnelDns
  overrideDns := b.overrideDns
  pingInterval := interval
  pingTimeout := timeout

theorem validate_eq_ok_iff {c : ConnectionConfig} {v : ValidatedConfig} :
    c.validate = .ok v ↔ c.problems = [] ∧ v.body = c.body := by
  unfold validate
  split
  next clean =>
    constructor
    · rintro ⟨⟩
      exact ⟨clean, rfl⟩
    · rintro ⟨-, same⟩
      cases v
      cases same
      rfl
  next wrong => simp [wrong]

/-! ## §2. The body of a config. -/

/-- The servers that are kept, one by one. -/
theorem trimsTo_cleanServers (servers : List String) :
    List.Forall₂ Text.TrimsTo (servers.filter fun server => !Text.isBlankText server)
      (cleanServers servers) := by
  unfold cleanServers
  induction servers with
  | nil => exact .nil
  | cons server servers ih =>
      rw [List.map_cons]
      cases blank : Text.isBlankText server with
      | true =>
          rw [List.filter_cons_of_neg (by simp [blank]), List.filter_cons_of_neg]
          · exact ih
          · simp [Text.trim_of_isBlankText blank]
      | false =>
          rw [List.filter_cons_of_pos (by simp [blank]), List.filter_cons_of_pos]
          · exact .cons (Text.trimsTo_trim server) ih
          · simp [trim_ne_empty blank]

theorem token_eq_some_iff {c : ConnectionConfig} {token : String} :
    c.token = some token ↔ token ≠ "" ∧ ∃ raw, c.userToken = some raw ∧ Text.TrimsTo raw token := by
  unfold ConnectionConfig.token
  rw [Option.filter_eq_some_iff, Option.map_eq_some_iff, and_comm, decide_eq_true_iff]
  simp only [Text.trimsTo_iff, eq_comm]

/-- **The body of a config without problems says what the config says.** -/
theorem canonical_body {c : ConnectionConfig} (h : c.problems = []) : c.Canonical c.body where
  endpoint := Text.trimsTo_trim c.endpoint
  id := Text.trimsTo_trim c.id
  orgId := Text.trimsTo_trim c.orgId
  dns := Text.trimsTo_trim c.dns
  secret := rfl
  userToken := fun _ => token_eq_some_iff
  mtu := toNat_toUInt16_inRange (problems_eq_nil_iff.mp h).2.2.1
  upstreamDns := trimsTo_cleanServers c.upstreamDns
  holepunch := rfl
  tunnelDns := rfl
  overrideDns := rfl
  pingInterval := Duration.ofEngineText?_engineText c.pingInterval
  pingTimeout := Duration.ofEngineText?_engineText c.pingTimeout

/-! ## §3. The body as a config. -/

/-- Servers that are not blank and have no outer blanks are left alone. -/
theorem cleanServers_of_clean {servers : List String}
    (clean : ∀ server ∈ servers, Text.isBlankText server = false ∧ Text.Trimmed server) :
    cleanServers servers = servers := by
  have same : servers.map Text.trim = servers := by
    rw [List.map_congr_left fun server listed => Text.trim_of_trimmed (clean server listed).2,
      List.map_id']
  unfold cleanServers
  rw [same, List.filter_eq_self]
  intro server listed
  simp only [decide_eq_true_eq]
  rintro rfl
  exact Bool.false_ne_true (clean "" listed).1.symm

/-- A token without outer blanks is left alone. -/
theorem token_ofBody (c : ConnectionConfig) (interval timeout : Duration) :
    (ofBody c.body interval timeout).token = c.token := by
  show (c.token.map Text.trim).filter _ = c.token
  cases htoken : c.token with
  | none => rfl
  | some token =>
      obtain ⟨some, trimmed⟩ := token_eq_some htoken
      simp [Option.filter, Text.trim_of_trimmed trimmed, some]

/-- **A body that is read as a config yields itself.** -/
theorem body_ofBody (c : ConnectionConfig) :
    (ofBody c.body c.pingInterval c.pingTimeout).body = c.body := by
  -- trimming, cleaning and narrowing leave alone what they have produced
  have token := token_ofBody c c.pingInterval c.pingTimeout
  have servers : cleanServers (cleanServers c.upstreamDns) = cleanServers c.upstreamDns :=
    cleanServers_of_clean fun _ listed => mem_cleanServers listed
  have mtu : c.mtu.toUInt16.toUInt32.toUInt16 = c.mtu.toUInt16 := UInt16.toUInt16_toUInt32 _
  unfold body at token ⊢
  rw [token]
  simp only [ofBody, Text.trim_trim, servers, mtu]

/-- **It is accepted as the config was.** -/
theorem problems_ofBody {c : ConnectionConfig} (h : c.problems = []) :
    (ofBody c.body c.pingInterval c.pingTimeout).problems = [] := by
  obtain ⟨endpoint, credentials, mtu, pingInterval, pingTimeout⟩ := problems_eq_nil_iff.mp h
  refine problems_eq_nil_iff.mpr ⟨?_, ?_, ?_, pingInterval, pingTimeout⟩
  · exact (Text.isBlankText_trim c.endpoint).trans endpoint
  · rw [token_ofBody]
    refine credentials.imp_right fun ⟨id, secret, orgId⟩ => ⟨?_, secret, ?_⟩
    · exact (Text.isBlankText_trim c.id).trans id
    · exact (Text.isBlankText_trim c.orgId).trans orgId
  · show mtuInRange c.mtu.toUInt16.toUInt32.toNat = true
    rw [UInt16.toNat_toUInt32, toNat_toUInt16_inRange mtu]
    exact mtu

/-! ## §4. The main result. -/

/-- What is passed on of a config that was accepted. -/
structure NormalForm (c : ConnectionConfig) (v : ValidatedConfig) : Prop where
  /-- The text is decoded to the body. -/
  readable : Wire.ConnectBody.codec.decode v.json = .ok v.body
  /-- The body says what the config says. -/
  canonical : c.Canonical v.body
  /-- The config of the body is accepted again, with the same text. -/
  stable : ∃ w, (ofBody v.body c.pingInterval c.pingTimeout).validate = .ok w ∧ w.json = v.json

/-- **A config that is accepted is passed on in its normal form**: its body is
read back, says what the config said, and is its own normal form. -/
theorem accepted_configs_have_normal_forms {c : ConnectionConfig} {v : ValidatedConfig}
    (accepted : c.validate = .ok v) : NormalForm c v := by
  obtain ⟨clean, same⟩ := validate_eq_ok_iff.mp accepted
  constructor
  case readable => exact v.decode_json
  case canonical =>
    rw [same]
    exact canonical_body clean
  case stable =>
    have again : (ofBody v.body c.pingInterval c.pingTimeout).problems = [] := by
      rw [same]
      exact problems_ofBody clean
    have body : (ofBody v.body c.pingInterval c.pingTimeout).body = v.body := by
      rw [same]
      exact body_ofBody c
    refine ⟨⟨v.body, _, again, body⟩, ?_, rfl⟩
    exact validate_eq_ok_iff.mpr ⟨again, body.symm⟩

/-- A token of blanks is none; a no-break space is a blank. -/
theorem config_with_blanks_has_normal_form :
    let c : ConnectionConfig :=
      { endpoint := "\u00a0vpn ", id := " olm 1", secret := " s ", userToken := some " ",
        orgId := "org\t", upstreamDns := [" ", "1.1.1.1 ", "", " \t8.8.8.8:53"] }
    ∃ v, c.validate = .ok v ∧ NormalForm c v
      ∧ (v.body.endpoint, v.body.secret, v.body.userToken) = ("vpn", " s ", none)
      ∧ v.body.upstreamDns = ["1.1.1.1", "8.8.8.8:53"] := by
  intro c
  have clean : c.problems = [] := by decide +kernel
  have accepted : c.validate = .ok ⟨c.body, c, clean, rfl⟩ := validate_eq_ok_iff.mpr ⟨clean, rfl⟩
  refine ⟨_, accepted, accepted_configs_have_normal_forms accepted, ?_, ?_⟩
  · decide +kernel +revert
  · decide +kernel +revert

end TunnelControl.ConnectionConfig
