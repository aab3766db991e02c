/-
  TunnelControl.Proofs.Settings.Tidy
  ──────────────────────────────────
  **SETTINGS THAT WERE ONLY TYPED STAY TIDY.**

  A person who starts with the defaults and only types settings never gets a
  record that cannot be connected with for the form of its texts: blanks are
  taken off, numbers are within their bounds, and times can be read.

    • `Tidy`, `tidy_default`            — the form of typed settings,
    • `mem_cleanServers_split`          — servers that were typed in a row,
    • `Entered.tidy`, `Tidy.setText_credential` — every change keeps the form,
    • `Tidy.renderedConfig`             — what can still be missing.
-/
import TunnelControl.CommandLine.Run
import TunnelControl.Proofs.Settings.Edit
import TunnelControl.Proofs.Text.Parts

namespace TunnelControl.Settings

open CommandLine (credentials renderedConfig)

variable {s x : Settings} {f : Setting} {raw : String}

/-! ## §1. The form of typed settings. -/

/-- Settings as they are when they were typed and accepted. -/
structure Tidy (s : Settings) : Prop where
  endpoint : Text.Trimmed s.endpoint
  id : Text.Trimmed s.id
  orgId : Text.Trimmed s.orgId
  dns : Text.Trimmed s.dns
  mtu : 1280 ≤ s.mtu.toNat ∧ s.mtu.toNat ≤ 1500
  upstreamDns : ∀ server ∈ s.upstreamDns,
    Text.isBlankText server = false ∧ Text.Trimmed server ∧ ',' ∉ server.toList
  pingInterval : ∃ d, Duration.parse s.pingInterval = .ok d
  pingTimeout : ∃ d, Duration.parse s.pingTimeout = .ok d
  logLevel : s.logLevel ∈ ["DEBUG", "INFO", "WARN", "ERROR"]

theorem tidy_default : Settings.default.Tidy where
  endpoint := Text.trimmed_of_trim rfl
  id := Text.trimmed_of_trim rfl
  orgId := Text.trimmed_of_trim rfl
  dns := Text.trimmed_of_trim rfl
  mtu := by decide
  upstreamDns := by
    intro server listed
    obtain rfl := List.mem_singleton.mp listed
    exact ⟨rfl, Text.trimmed_of_trim rfl, by decide⟩
  pingInterval := ⟨_, rfl⟩
  pingTimeout := ⟨_, rfl⟩
  logLevel := by decide

theorem mem_names (l : LogLevel) : l.name ∈ ["DEBUG", "INFO", "WARN", "ERROR"] := by
  cases l <;> decide

/-! ## §2. Changes keep the form. -/

/-- **Servers that were typed in a row** have neither blanks around them nor
commas in them. -/
theorem mem_cleanServers_split {text server : String}
    (listed : server ∈ cleanServers (Text.splitString ',' text)) :
    Text.isBlankText server = false ∧ Text.Trimmed server ∧ ',' ∉ server.toList := by
  obtain ⟨filled, trimmed⟩ := ConnectionConfig.mem_cleanServers listed
  refine ⟨filled, trimmed, fun comma => ?_⟩
  obtain ⟨piece, among, rfl⟩ := List.mem_map.mp (List.mem_of_mem_filter listed)
  obtain ⟨cs, cut, rfl⟩ := List.mem_map.mp among
  have inside := Text.mem_of_mem_trim comma
  rw [String.toList_ofList] at inside
  exact Text.not_mem_of_mem_parts cut inside

theorem Tidy.setText_plain (tidy : s.Tidy) (plain : f ∈ plainTexts) {value : String}
    (trimmed : Text.Trimmed value) : (s.setText f value).Tidy := by
  cases f with
  | endpoint => exact { tidy with endpoint := trimmed }
  | id => exact { tidy with id := trimmed }
  | orgId => exact { tidy with orgId := trimmed }
  | dns => exact { tidy with dns := trimmed }
  | secret | userToken => exact { tidy with }
  | _ => exact absurd plain (by decide)

/-- A credential may be anything. -/
theorem Tidy.setText_credential (tidy : s.Tidy) (listed : f ∈ credentials) (value : String) :
    (s.setText f value).Tidy := by
  cases f with
  | secret | userToken => exact { tidy with }
  | _ => exact absurd listed (by decide)

/-- A time is kept if both times can be read. -/
theorem Tidy.setText_time (tidy : s.Tidy) {g : Setting} (other : OtherTime f g) {value : String}
    (readable : ∀ h, ¬ (s.setText f value).BrokenTime h) : (s.setText f value).Tidy := by
  have interval := not_forall_not.mp (readable .pingInterval)
  have timeout := not_forall_not.mp (readable .pingTimeout)
  cases other with
  | interval => exact { tidy with pingInterval := interval }
  | timeout => exact { tidy with pingTimeout := timeout }

theorem Tidy.setUpstreamDns (tidy : s.Tidy) (text : String) :
    (s.setUpstreamDns (Text.splitString ',' text)).Tidy := by
  unfold Settings.setUpstreamDns
  have servers : ∀ server ∈ cleanServers (Text.splitString ',' text),
      Text.isBlankText server = false ∧ Text.Trimmed server ∧ ',' ∉ server.toList :=
    fun _ listed => mem_cleanServers_split listed
  generalize cleanServers (Text.splitString ',' text) = kept at servers
  exact { tidy with upstreamDns := servers }

/-- **An accepted text keeps the form.** -/
theorem Entered.tidy (entered : Entered raw s f x) (tidy : s.Tidy) : x.Tidy := by
  cases entered with
  | text plain => exact tidy.setText_plain plain (Text.trimmed_trim raw)
  | mtu n usable => exact { tidy with mtu := ConnectionConfig.mtuInRange_iff.mp usable }
  | servers => exact tidy.setUpstreamDns _
  | @flag f b => cases f <;> exact { tidy with }
  | level l => exact { tidy with logLevel := mem_names l }
  | time other readable => exact tidy.setText_time other readable

/-! ## §3. What can still be missing. -/

/-- The problem is that a text is missing or a time is zero. -/
def Missing (p : Problem) : Prop :=
  p.setting ∈ [Setting.endpoint, .id, .secret, .orgId]
    ∨ p.setting ∈ [Setting.pingInterval, .pingTimeout] ∧ p.reason = .zero

theorem mem_problemUnless {p : Problem} {ok : Bool} {reason : Reason}
    (listed : p ∈ ConnectionConfig.problemUnless ok f reason) : p = ⟨f, reason⟩ := by
  unfold ConnectionConfig.problemUnless at listed
  split at listed
  next => cases listed
  next => exact List.mem_singleton.mp listed

/-- With an MTU that can be used, nothing but that is wrong with a config. -/
theorem missing_of_mem_problems {c : ConnectionConfig} (usable : mtuInRange c.mtu.toNat = true)
    {p : Problem} (listed : p ∈ c.problems) : Missing p := by
  have noMtu (reason : Reason) :
      ConnectionConfig.problemUnless (mtuInRange c.mtu.toNat) .mtu reason = [] :=
    ConnectionConfig.problemUnless_eq_nil_iff.mpr usable
  unfold ConnectionConfig.problems at listed
  rw [noMtu, List.append_nil] at listed
  -- one case for each check that is left, the last one first
  rcases List.mem_append.mp listed with listed | timeout
  · rcases List.mem_append.mp listed with listed | interval
    · refine .inl ?_
      rcases List.mem_append.mp listed with endpoint | listed
      · rw [mem_problemUnless endpoint]
        decide
      · split at listed
        next => cases listed
        next =>
          rcases List.mem_append.mp listed with listed | org
          · rcases List.mem_append.mp listed with id | secret
            · rw [mem_problemUnless id]
              decide
            · rw [mem_problemUnless secret]
              decide
          · rw [mem_problemUnless org]
            decide
    · rw [mem_problemUnless interval]
      exact .inr ⟨by decide, rfl⟩
  · rw [mem_problemUnless timeout]
    exact .inr ⟨by decide, rfl⟩

/-- The times of tidy settings can be read. -/
theorem Tidy.not_brokenTime (tidy : s.Tidy) (f : Setting) : ¬ s.BrokenTime f := by
  obtain ⟨interval, read⟩ := tidy.pingInterval
  obtain ⟨timeout, read'⟩ := tidy.pingTimeout
  intro broken
  cases f with
  | pingInterval => exact broken interval read
  | pingTimeout => exact broken timeout read'
  | _ => exact broken

theorem mtu_of_toConfig {c : ConnectionConfig} (read : s.toConfig = .ok c) : c.mtu = s.mtu := by
  unfold toConfig at read
  split at read
  next =>
    injection read with read
    rw [← read]
  next => cases read

/-- **The config of tidy settings is rendered, or texts are missing or times
are zero.** -/
theorem Tidy.renderedConfig (tidy : s.Tidy) :
    (∃ v, renderedConfig s = .ok v)
      ∨ ∃ r, renderedConfig s = .error r ∧ r.problems ≠ [] ∧ ∀ p ∈ r.problems, Missing p := by
  unfold CommandLine.renderedConfig
  cases read : s.toConfig with
  | error r =>
      obtain ⟨f, broken⟩ := toConfig_eq_error_iff.mp ⟨r, read⟩
      exact absurd broken (tidy.not_brokenTime f)
  | ok c =>
      have usable : mtuInRange c.mtu.toNat = true := by
        rw [mtu_of_toConfig read]
        exact ConnectionConfig.mtuInRange_iff.mpr tidy.mtu
      by_cases clean : c.problems = []
      · refine .inl ⟨Wire.ConnectBody.codec.toValue c.body, ?_⟩
        show (c.validate >>= _) = _
        rw [ConnectionConfig.validate, dif_pos clean]
        rfl
      · refine .inr ⟨⟨c.problems⟩, ?_, clean, fun p listed => missing_of_mem_problems usable listed⟩
        show (c.validate >>= _) = _
        rw [ConnectionConfig.validate, dif_neg clean]
        rfl

end TunnelControl.Settings
