/-
  TunnelControl.Proofs.Connection.Verdict
  ───────────────────────────────────────
  **A REJECTION NAMES EXACTLY WHAT IS WRONG.**

  A config is accepted if it meets all conditions.  If not, the rejection
  names the settings that break one, each once and in the order of the checks,
  however many there are; a user token waives the conditions on the client.

    • `Acceptable`, `Offends`      — the conditions, and the settings that break them,
    • `acceptable_iff`             — no setting that is checked breaks one,
    • `settings_problems`          — the settings in the list of problems,
    • `NamesOffenders`, `Verdict`  — what a rejection says, how a check ends,
    • `rejections_name_offending_settings`.
-/
import TunnelControl.Proofs.Connection.Sound

namespace TunnelControl.ConnectionConfig

/-! ## §1. The conditions. -/

/-- There is a user token that is more than blanks. -/
def HasToken (c : ConnectionConfig) : Prop :=
  ∃ token, c.userToken = some token ∧ Text.trim token ≠ ""

/-- The config meets all conditions. -/
structure Acceptable (c : ConnectionConfig) : Prop where
  /-- There is a control server. -/
  endpoint : Text.trim c.endpoint ≠ ""
  /-- There is a user token, or there are a client, its secret and an organization. -/
  credentials : c.HasToken
    ∨ (Text.trim c.id ≠ "" ∧ Text.trim c.secret ≠ "" ∧ Text.trim c.orgId ≠ "")
  /-- The MTU is within its bounds, as it stands in 32 bits. -/
  mtu : 1280 ≤ c.mtu.toNat ∧ c.mtu.toNat ≤ 1500
  /-- Pings have some time between them. -/
  pingInterval : c.pingInterval.nanoseconds ≠ 0
  /-- Pings may take some time. -/
  pingTimeout : c.pingTimeout.nanoseconds ≠ 0

/-- The setting breaks a condition. -/
def Offends (c : ConnectionConfig) : Setting → Prop
  | .endpoint => Text.trim c.endpoint = ""
  | .id => ¬ c.HasToken ∧ Text.trim c.id = ""
  | .secret => ¬ c.HasToken ∧ Text.trim c.secret = ""
  | .orgId => ¬ c.HasToken ∧ Text.trim c.orgId = ""
  | .mtu => c.mtu.toNat < 1280 ∨ 1500 < c.mtu.toNat
  | .pingInterval => c.pingInterval.nanoseconds = 0
  | .pingTimeout => c.pingTimeout.nanoseconds = 0
  | _ => False

/-- The settings that are checked, in order. -/
def checked : List Setting :=
  [.endpoint, .id, .secret, .orgId, .mtu, .pingInterval, .pingTimeout]

theorem token_isSome_iff {c : ConnectionConfig} : c.token.isSome = true ↔ c.HasToken := by
  unfold token HasToken
  cases c.userToken with
  | none => simp
  | some token => simp [Option.filter]

instance (c : ConnectionConfig) : Decidable c.HasToken := decidable_of_iff _ token_isSome_iff

instance (c : ConnectionConfig) (s : Setting) : Decidable (c.Offends s) :=
  match s with
  | .endpoint => inferInstanceAs (Decidable (_ = _))
  | .id | .secret | .orgId => inferInstanceAs (Decidable (_ ∧ _))
  | .mtu => inferInstanceAs (Decidable (_ ∨ _))
  | .pingInterval | .pingTimeout => inferInstanceAs (Decidable (_ = _))
  | .userToken | .dns | .upstreamDns | .holepunch | .tunnelDns | .overrideDns | .logLevel =>
      inferInstanceAs (Decidable False)

/-- A setting that breaks a condition is checked. -/
theorem mem_checked {c : ConnectionConfig} {s : Setting} (offends : c.Offends s) : s ∈ checked := by
  cases s with
  | endpoint | id | secret | orgId | mtu | pingInterval | pingTimeout => decide
  | _ => exact offends.elim

/-- **A config meets all conditions exactly if no setting breaks one.** -/
theorem acceptable_iff {c : ConnectionConfig} : c.Acceptable ↔ ∀ s ∈ checked, ¬ c.Offends s := by
  constructor
  · intro ok s _ offends
    cases s with
    | endpoint => exact ok.endpoint offends
    | id => exact (ok.credentials.resolve_left offends.1).1 offends.2
    | secret => exact (ok.credentials.resolve_left offends.1).2.1 offends.2
    | orgId => exact (ok.credentials.resolve_left offends.1).2.2 offends.2
    | mtu =>
        have outside : c.mtu.toNat < 1280 ∨ 1500 < c.mtu.toNat := offends
        have bounds := ok.mtu
        omega
    | pingInterval => exact ok.pingInterval offends
    | pingTimeout => exact ok.pingTimeout offends
    | _ => exact offends
  · intro clean
    constructor
    case endpoint => exact clean .endpoint (by decide)
    case credentials =>
      by_cases token : c.HasToken
      · exact .inl token
      · refine .inr ⟨fun blank => ?_, fun blank => ?_, fun blank => ?_⟩
        · exact clean .id (by decide) ⟨token, blank⟩
        · exact clean .secret (by decide) ⟨token, blank⟩
        · exact clean .orgId (by decide) ⟨token, blank⟩
    case mtu =>
      have inside : ¬ (c.mtu.toNat < 1280 ∨ 1500 < c.mtu.toNat) := clean .mtu (by decide)
      omega
    case pingInterval => exact clean .pingInterval (by decide)
    case pingTimeout => exact clean .pingTimeout (by decide)

/-! ## §2. The problems. -/

/-- A check that fails exactly if its setting breaks a condition names it then. -/
theorem settings_problemUnless {c : ConnectionConfig} {ok : Bool} {s : Setting} (reason : Reason)
    (fails : ok = false ↔ c.Offends s) :
    (problemUnless ok s reason).map Problem.setting = [s].filter fun s => c.Offends s := by
  cases ok with
  | true => simp [problemUnless, ← fails]
  | false => simp [problemUnless, ← fails]

theorem blank_check_fails_iff {s : String} :
    (!Text.isBlankText s) = false ↔ Text.trim s = "" := by
  rw [Bool.not_eq_false', Text.trim_eq_empty_iff]

theorem zero_check_fails_iff {d : Duration} : (!d.isZero) = false ↔ d.nanoseconds = 0 := by
  unfold Duration.isZero
  rw [Bool.not_eq_false', beq_iff_eq]

theorem mtu_check_fails_iff {n : Nat} : mtuInRange n = false ↔ n < 1280 ∨ 1500 < n := by
  rw [← Bool.not_eq_true, mtuInRange_iff]
  omega

/-- With a user token the settings of the client are not asked for. -/
theorem settings_credentials (c : ConnectionConfig) :
    (if c.token.isSome then []
      else problemUnless (!Text.isBlankText c.id) .id .blankWithoutToken
        ++ problemUnless (!Text.isBlankText c.secret) .secret .blankWithoutToken
        ++ problemUnless (!Text.isBlankText c.orgId) .orgId .blankWithoutToken).map Problem.setting
      = [Setting.id, .secret, .orgId].filter fun s => c.Offends s := by
  by_cases token : c.HasToken
  · rw [if_pos (token_isSome_iff.mpr token), eq_comm]
    simp [Offends, token]
  · -- without one each of them is checked by itself
    have each : ∀ {s : Setting} {text : String},
        (c.Offends s ↔ ¬ c.HasToken ∧ Text.trim text = "") →
        (problemUnless (!Text.isBlankText text) s .blankWithoutToken).map Problem.setting
          = [s].filter fun s => c.Offends s := by
      intro s text asked
      refine settings_problemUnless _ ?_
      rw [blank_check_fails_iff, asked, and_iff_right token]
    rw [if_neg (mt token_isSome_iff.mp token), List.map_append, List.map_append, each Iff.rfl,
      each Iff.rfl, each Iff.rfl, ← List.filter_append, ← List.filter_append]
    rfl

/-- **The problems are those of the settings that break a condition**, in the
order of the checks. -/
theorem settings_problems (c : ConnectionConfig) :
    c.problems.map Problem.setting = checked.filter fun s => c.Offends s := by
  unfold problems
  rw [List.map_append, List.map_append, List.map_append, List.map_append, settings_credentials,
    settings_problemUnless (c := c) .blank blank_check_fails_iff,
    settings_problemUnless (c := c) (.outOfRange _) mtu_check_fails_iff,
    settings_problemUnless (c := c) .zero (zero_check_fails_iff (d := c.pingInterval)),
    settings_problemUnless (c := c) .zero (zero_check_fails_iff (d := c.pingTimeout)),
    ← List.filter_append, ← List.filter_append, ← List.filter_append, ← List.filter_append]
  rfl

/-- There are none exactly if the config meets all conditions. -/
theorem problems_eq_nil_iff_acceptable {c : ConnectionConfig} :
    c.problems = [] ↔ c.Acceptable := by
  rw [← List.map_eq_nil_iff (f := Problem.setting), settings_problems, List.filter_eq_nil_iff,
    acceptable_iff]
  simp

/-! ## §3. The main result. -/

/-- What a rejection says of a config. -/
structure NamesOffenders (c : ConnectionConfig) (r : Rejected) : Prop where
  /-- It names exactly the settings that break a condition. -/
  exactly : ∀ s, s ∈ r.problems.map Problem.setting ↔ c.Offends s
  /-- It names each of them once. -/
  once : (r.problems.map Problem.setting).Nodup
  /-- It names them in the order of the checks. -/
  ordered : (r.problems.map fun p => p.setting.wireName).Sublist
    ["endpoint", "id", "secret", "orgId", "mtu", "pingInterval", "pingTimeout"]

theorem problems_name_offenders (c : ConnectionConfig) : NamesOffenders c ⟨c.problems⟩ where
  exactly := by
    intro s
    rw [settings_problems, List.mem_filter, decide_eq_true_iff, and_iff_right_iff_imp]
    exact mem_checked
  once := by
    rw [settings_problems]
    exact List.Pairwise.filter _ (by decide : checked.Nodup)
  ordered := by
    have names : (c.problems.map fun p => p.setting.wireName)
        = (checked.filter fun s => c.Offends s).map Setting.wireName := by
      rw [← settings_problems, List.map_map]
      rfl
    rw [names]
    exact List.filter_sublist.map Setting.wireName

/-- How the check of a config ends. -/
structure Verdict (c : ConnectionConfig) : Prop where
  /-- The config is accepted exactly if it meets all conditions. -/
  accepted : (∃ v, c.validate = .ok v) ↔ c.Acceptable
  /-- If it does not, it is rejected, with the settings that break one. -/
  rejected : (∃ r, c.validate = .error r ∧ NamesOffenders c r) ↔ ¬ c.Acceptable

/-- **A config is accepted exactly if it meets all conditions, and otherwise
rejected with exactly the settings that break one**, each once and in order. -/
theorem rejections_name_offending_settings (c : ConnectionConfig) : Verdict c := by
  have names := problems_name_offenders c
  constructor
  case accepted =>
    rw [← problems_eq_nil_iff_acceptable]
    unfold validate
    split
    next clean => simp [clean]
    next wrong => simp [wrong]
  case rejected =>
    rw [← problems_eq_nil_iff_acceptable]
    unfold validate
    split
    next clean => simp [clean]
    next wrong => simp [wrong, names]

/-- An MTU that agrees with one within the bounds in its lower 16 bits is none. -/
example :
    let c : ConnectionConfig := { endpoint := " vpn ", userToken := some " t ", mtu := 65536 + 1420 }
    (c.problems, c.mtu.toUInt16) = ([⟨.mtu, .outOfRange 66956⟩], 1420) := by
  decide +kernel

end TunnelControl.ConnectionConfig
