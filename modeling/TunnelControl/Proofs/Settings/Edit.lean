/-
  TunnelControl.Proofs.Settings.Edit
  ──────────────────────────────────
  **WHAT A TYPED TEXT DOES TO ONE SETTING.**

  A typed text is judged by itself, with one exception: the two ping times are
  read together, so that one that is broken stands in the way of the other.
  What an accepted text changes is its own setting and nothing else.

    • `Setting.all`, `Rejected.mentions_iff` — the settings and their names,
    • `Fits`, `BrokenTime`, `OtherTime` — what an edit depends on,
    • `names_of_toConfig_error`         — a config is refused for its times alone,
    • `Entered`, `entered_of_enter`     — all that an accepted text can do,
    • `enter_eq_error_iff`, `names_of_enter_error` — when a text is refused,
    • `EditVerdict`, `edits_are_judged_with_the_other_time`,
    • `entry`, `Entered.entry`          — the other settings stay.
-/
import Mathlib.Data.List.Nodup
import TunnelControl.Proofs.Connection.Sound
import TunnelControl.Proofs.Wire.RoundTrip
import TunnelControl.Settings.Edit

namespace TunnelControl

/-- All settings, in the order in which they are written. -/
def Setting.all : List Setting :=
  [.endpoint, .id, .secret, .userToken, .orgId, .mtu, .dns, .upstreamDns, .holepunch, .tunnelDns,
    .overrideDns, .pingInterval, .pingTimeout, .logLevel]

theorem Setting.mem_all (f : Setting) : f ∈ all := by cases f <;> decide

theorem Setting.wireName_injective {f g : Setting} (same : f.wireName = g.wireName) : f = g :=
  List.inj_on_of_nodup_map (by decide : (all.map wireName).Nodup) f.mem_all g.mem_all same

/-- A rejection mentions the names of the settings in its problems. -/
theorem Rejected.mentions_iff {r : Rejected} {name : String} :
    r.mentions name = true ↔ ∃ f ∈ r.problems.map Problem.setting, name = f.wireName := by
  unfold mentions
  rw [List.any_eq_true]
  constructor
  · rintro ⟨p, listed, same⟩
    exact ⟨p.setting, List.mem_map_of_mem listed, (beq_iff_eq.mp same).symm⟩
  · rintro ⟨f, listed, rfl⟩
    obtain ⟨p, problem, rfl⟩ := List.mem_map.mp listed
    exact ⟨p, problem, beq_iff_eq.mpr rfl⟩

namespace Settings

variable {f g : Setting} {raw value : String} {s x : Settings}

/-! ## §1. What an edit depends on. -/

/-- A typed text can be the value of a setting. -/
def Fits (f : Setting) (raw : String) : Prop :=
  let value := Text.trim raw
  match f with
  | .mtu => ∃ n, Text.natural? value.toList = some n ∧ 1280 ≤ n ∧ n ≤ 1500
  | .holepunch | .tunnelDns | .overrideDns => value = "true" ∨ value = "false"
  | .logLevel => ∃ level : LogLevel, value.map Char.toUpper = level.name
  | .pingInterval | .pingTimeout => ∃ d, Duration.parse value = .ok d
  | _ => True

/-- The setting is one of the two ping times, and the other one is told. -/
inductive OtherTime : Setting → Setting → Prop where
  | interval : OtherTime .pingInterval .pingTimeout
  | timeout : OtherTime .pingTimeout .pingInterval

/-- The text that is kept of a time is no duration. -/
def BrokenTime (s : Settings) : Setting → Prop
  | .pingInterval => ∀ d, Duration.parse s.pingInterval ≠ .ok d
  | .pingTimeout => ∀ d, Duration.parse s.pingTimeout ≠ .ok d
  | _ => False

/-! ## §2. Both times together. -/

theorem mem_durationProblems :
    g ∈ (durationProblems f raw).map Problem.setting ↔ g = f ∧ ∀ d, Duration.parse raw ≠ .ok d := by
  unfold durationProblems
  cases Duration.parse raw with
  | ok d => simp
  | error e => simp

/-- **A config is refused for its times alone**, and each that is broken is
named. -/
theorem names_of_toConfig_error {r : Rejected} (refused : s.toConfig = .error r) :
    g ∈ r.problems.map Problem.setting ↔ s.BrokenTime g := by
  unfold toConfig at refused
  split at refused
  next => cases refused
  next =>
    injection refused with refused
    subst refused
    rw [List.map_append, List.mem_append, mem_durationProblems, mem_durationProblems]
    cases g with
    | pingInterval => simp [BrokenTime]
    | pingTimeout => simp [BrokenTime]
    | _ => simp [BrokenTime]

theorem toConfig_eq_error_iff : (∃ r, s.toConfig = .error r) ↔ ∃ g, s.BrokenTime g := by
  constructor
  · rintro ⟨r, refused⟩
    have named := fun g => names_of_toConfig_error (g := g) refused
    unfold toConfig at refused
    split at refused
    next => cases refused
    next broken =>
      -- two times that can be read would have been accepted
      cases interval : Duration.parse s.pingInterval with
      | error e => exact ⟨.pingInterval, fun d same => by rw [interval] at same; cases same⟩
      | ok d =>
          cases timeout : Duration.parse s.pingTimeout with
          | error e => exact ⟨.pingTimeout, fun d same => by rw [timeout] at same; cases same⟩
          | ok d' => exact (broken d d' interval timeout).elim
  · rintro ⟨g, broken⟩
    cases accepted : s.toConfig with
    | error r => exact ⟨r, rfl⟩
    | ok c =>
        unfold toConfig at accepted
        split at accepted
        next d d' interval timeout =>
          cases g with
          | pingInterval => exact absurd interval (broken d)
          | pingTimeout => exact absurd timeout (broken d')
          | _ => exact broken.elim
        next => cases accepted

/-- An edit of a time replaces one of the two texts. -/
theorem brokenTime_setText (time : OtherTime f g) {h : Setting} :
    (s.setText f value).BrokenTime h
      ↔ (h = f ∧ ∀ d, Duration.parse value ≠ .ok d) ∨ (h = g ∧ s.BrokenTime g) := by
  cases time with
  | interval => cases h <;> simp [BrokenTime, setText]
  | timeout => cases h <;> simp [BrokenTime, setText]

/-! ## §3. What an accepted text does. -/

/-- The settings that take any text, without its outer blanks. -/
def plainTexts : List Setting := [.endpoint, .id, .secret, .userToken, .orgId, .dns]

/-- All that an accepted text can do to the settings. -/
inductive Entered (raw : String) (s : Settings) : Setting → Settings → Prop where
  | text {f : Setting} (plain : f ∈ plainTexts) : Entered raw s f (s.setText f (Text.trim raw))
  | mtu (n : UInt32) (usable : mtuInRange n.toNat = true) : Entered raw s .mtu { s with mtu := n }
  | servers :
      Entered raw s .upstreamDns (s.setUpstreamDns (Text.splitString ',' (Text.trim raw)))
  | flag {f : Setting} (b : Bool) : Entered raw s f (s.setFlag f b)
  | level (l : LogLevel) : Entered raw s .logLevel (s.setLogLevel l)
  /-- A time, if the other one can be read as well. -/
  | time {f g : Setting} (other : OtherTime f g)
      (readable : ∀ h, ¬ (s.setText f (Text.trim raw)).BrokenTime h) :
      Entered raw s f (s.setText f (Text.trim raw))

/-- An edit of a time ends as the reading of both. -/
theorem enterTime_cases (f : Setting) (value : String) (s : Settings) :
    ((∀ h, ¬ (s.setText f value).BrokenTime h) ∧ enterTime f value s = .ok (s.setText f value))
      ∨ ∃ r, enterTime f value s = .error r ∧ (s.setText f value).toConfig = .error r := by
  unfold enterTime
  cases whole : (s.setText f value).toConfig with
  | ok c =>
      refine .inl ⟨fun h broken => ?_, by simp only [whole]⟩
      obtain ⟨r, refused⟩ := toConfig_eq_error_iff.mpr ⟨h, broken⟩
      rw [whole] at refused
      cases refused
  | error r => exact .inr ⟨r, by simp only [whole], rfl⟩

/-- A typed truth value is one of two words. -/
theorem enterFlag_cases (f : Setting) (value : String) (s : Settings) :
    ((value = "true" ∨ value = "false") ∧ ∃ b, enterFlag f value s = .ok (s.setFlag f b))
      ∨ ¬ (value = "true" ∨ value = "false")
        ∧ enterFlag f value s = .error (.because f (.noBoolean value)) := by
  unfold enterFlag Text.boolean?
  by_cases yes : value = "true"
  · exact .inl ⟨.inl yes, true, by rw [if_pos yes]⟩
  · by_cases no : value = "false"
    · exact .inl ⟨.inr no, false, by rw [if_neg yes, if_pos no]⟩
    · exact .inr ⟨not_or.mpr ⟨yes, no⟩, by rw [if_neg yes, if_neg no]⟩

theorem naturalUpTo?_eq_some_iff {bound n : Nat} {text : String} :
    Text.naturalUpTo? bound text = some n ↔ Text.natural? text.toList = some n ∧ n ≤ bound := by
  unfold Text.naturalUpTo?
  rw [Option.filter_eq_some_iff, decide_eq_true_iff]

/-- A typed number is an MTU if it is within the bounds. -/
theorem enter_mtu (raw : String) (s : Settings) :
    (Fits .mtu raw ∧ ∃ x, enter .mtu raw s = .ok x ∧ Entered raw s .mtu x)
      ∨ ¬ Fits .mtu raw ∧ ∃ reason, enter .mtu raw s = .error (.because .mtu reason) := by
  have bound : UInt32.size - 1 = 4294967295 := rfl
  cases read : Text.naturalUpTo? (UInt32.size - 1) (Text.trim raw) with
  | none =>
      refine .inr ⟨?_, .noNumber (Text.trim raw), by simp only [enter, read]⟩
      -- what is within the bounds of an MTU has room in 32 bits
      rintro ⟨n, written, -, high⟩
      have found := naturalUpTo?_eq_some_iff.mpr ⟨written, (by omega : n ≤ UInt32.size - 1)⟩
      rw [read] at found
      cases found
  | some n =>
      obtain ⟨written, small⟩ := naturalUpTo?_eq_some_iff.mp read
      have same : (UInt32.ofNat n).toNat = n :=
        UInt32.toNat_ofNat_of_lt' (Nat.lt_of_le_of_lt small (by decide))
      have entered : enter .mtu raw s = setMtu (UInt32.ofNat n) s := by simp only [enter, read]
      by_cases inside : mtuInRange (UInt32.ofNat n).toNat = true
      · have taken := entered.trans (if_pos inside)
        have bounds := ConnectionConfig.mtuInRange_iff.mp inside
        rw [same] at bounds
        exact .inl ⟨⟨n, written, bounds⟩, _, taken, .mtu _ inside⟩
      · refine .inr ⟨?_, _, entered.trans (if_neg inside)⟩
        rintro ⟨m, written', bounds⟩
        rw [written] at written'
        injection written' with written'
        rw [← written', ← same] at bounds
        exact inside (ConnectionConfig.mtuInRange_iff.mpr bounds)

/-- A typed log level is one of four names, in any case. -/
theorem enter_logLevel (raw : String) (s : Settings) :
    (Fits .logLevel raw ∧ ∃ x, enter .logLevel raw s = .ok x ∧ Entered raw s .logLevel x)
      ∨ ¬ Fits .logLevel raw ∧ ∃ reason, enter .logLevel raw s = .error (.because .logLevel reason) := by
  cases named : LogLevel.ofName? (Text.trim raw) with
  | some level =>
      have same := List.find?_some named
      exact .inl ⟨⟨level, (beq_iff_eq.mp same).symm⟩, s.setLogLevel level,
        by simp only [enter, named], .level level⟩
  | none =>
      refine .inr ⟨?_, .noLogLevel (Text.trim raw), by simp only [enter, named]⟩
      rintro ⟨level, same⟩
      have other := List.find?_eq_none.mp named level (by cases level <;> decide)
      exact other (beq_iff_eq.mpr same.symm)

/-- **A setting that is no time is judged by its text alone**, and named if it
is refused. -/
theorem enter_single (single : ∀ g, ¬ OtherTime f g) (raw : String) (s : Settings) :
    (Fits f raw ∧ ∃ x, enter f raw s = .ok x ∧ Entered raw s f x)
      ∨ ¬ Fits f raw ∧ ∃ reason, enter f raw s = .error (.because f reason) := by
  have flag {f : Setting} (isFlag : enter f raw s = enterFlag f (Text.trim raw) s)
      (fits : Fits f raw ↔ Text.trim raw = "true" ∨ Text.trim raw = "false") :
      (Fits f raw ∧ ∃ x, enter f raw s = .ok x ∧ Entered raw s f x)
        ∨ ¬ Fits f raw ∧ ∃ reason, enter f raw s = .error (.because f reason) := by
    rw [isFlag, fits]
    rcases enterFlag_cases f (Text.trim raw) s with ⟨word, b, taken⟩ | ⟨other, refused⟩
    · exact .inl ⟨word, _, taken, .flag b⟩
    · exact .inr ⟨other, _, refused⟩
  cases f with
  | endpoint | id | secret | userToken | orgId | dns =>
      exact .inl ⟨trivial, _, rfl, .text (by decide)⟩
  | mtu => exact enter_mtu raw s
  | upstreamDns => exact .inl ⟨trivial, _, rfl, .servers⟩
  | holepunch | tunnelDns | overrideDns => exact flag rfl Iff.rfl
  | pingInterval => exact absurd .interval (single .pingTimeout)
  | pingTimeout => exact absurd .timeout (single .pingInterval)
  | logLevel => exact enter_logLevel raw s

theorem enter_of_time (time : OtherTime f g) (raw : String) (s : Settings) :
    enter f raw s = enterTime f (Text.trim raw) s := by
  cases time <;> rfl

theorem fits_of_time (time : OtherTime f g) :
    Fits f raw ↔ ∃ d, Duration.parse (Text.trim raw) = .ok d := by
  cases time <;> exact Iff.rfl

/-- **What an accepted text can do.** -/
theorem entered_of_enter (accepted : enter f raw s = .ok x) : Entered raw s f x := by
  by_cases time : ∃ g, OtherTime f g
  · obtain ⟨g, time⟩ := time
    rw [enter_of_time time] at accepted
    rcases enterTime_cases f (Text.trim raw) s with ⟨readable, taken⟩ | ⟨r, refused, -⟩
    · rw [taken] at accepted
      injection accepted with accepted
      exact accepted ▸ .time time readable
    · rw [refused] at accepted
      cases accepted
  · rcases enter_single (not_exists.mp time) raw s with ⟨-, y, taken, entered⟩ | ⟨-, reason, refused⟩
    · rw [taken] at accepted
      injection accepted with accepted
      exact accepted ▸ entered
    · rw [refused] at accepted
      cases accepted

/-! ## §4. When a text is refused. -/

theorem enter_eq_error_iff :
    (∃ r, enter f raw s = .error r) ↔ ¬ Fits f raw ∨ ∃ g, OtherTime f g ∧ s.BrokenTime g := by
  -- a time is read with the other one, any other setting by itself
  by_cases time : ∃ g, OtherTime f g
  · obtain ⟨g, time⟩ := time
    have other : (∃ g, OtherTime f g ∧ s.BrokenTime g) ↔ s.BrokenTime g := by
      constructor
      · rintro ⟨h, other, broken⟩
        cases time <;> cases other <;> exact broken
      · exact fun broken => ⟨g, time, broken⟩
    have either : (∃ h, (s.setText f (Text.trim raw)).BrokenTime h)
        ↔ ¬ Fits f raw ∨ s.BrokenTime g := by
      simp only [brokenTime_setText time, fits_of_time time, not_exists]
      constructor
      · rintro ⟨h, ⟨-, misfit⟩ | ⟨-, broken⟩⟩
        · exact .inl misfit
        · exact .inr broken
      · rintro (misfit | broken)
        · exact ⟨f, .inl ⟨rfl, misfit⟩⟩
        · exact ⟨g, .inr ⟨rfl, broken⟩⟩
    rw [enter_of_time time, other, ← either]
    rcases enterTime_cases f (Text.trim raw) s with ⟨readable, taken⟩ | ⟨r, refused, whole⟩
    · simp [taken, readable]
    · exact ⟨fun _ => toConfig_eq_error_iff.mp ⟨r, whole⟩, fun _ => ⟨r, refused⟩⟩
  · have none : ¬ ∃ g, OtherTime f g ∧ s.BrokenTime g := fun ⟨g, other, _⟩ => time ⟨g, other⟩
    rw [or_iff_left none]
    rcases enter_single (not_exists.mp time) raw s with ⟨fits, x, taken, -⟩ | ⟨misfit, reason, refused⟩
    · simp [taken, fits]
    · simp [refused, misfit]

theorem names_of_enter_error {r : Rejected} (refused : enter f raw s = .error r) {h : Setting} :
    h ∈ r.problems.map Problem.setting
      ↔ (h = f ∧ ¬ Fits f raw) ∨ (OtherTime f h ∧ s.BrokenTime h) := by
  by_cases time : ∃ g, OtherTime f g
  · obtain ⟨g, time⟩ := time
    rw [enter_of_time time] at refused
    rcases enterTime_cases f (Text.trim raw) s with ⟨-, taken⟩ | ⟨r', refused', whole⟩
    · rw [taken] at refused
      cases refused
    · rw [refused'] at refused
      injection refused with refused
      subst refused
      rw [names_of_toConfig_error whole, brokenTime_setText time, fits_of_time time, not_exists]
      refine or_congr Iff.rfl ?_
      constructor
      · rintro ⟨rfl, broken⟩
        exact ⟨time, broken⟩
      · rintro ⟨other, broken⟩
        cases time <;> cases other <;> exact ⟨rfl, broken⟩
  · rcases enter_single (not_exists.mp time) raw s with ⟨-, x, taken, -⟩ | ⟨misfit, reason, refused'⟩
    · rw [taken] at refused
      cases refused
    · rw [refused'] at refused
      injection refused with refused
      subst refused
      have none : ¬ (OtherTime f h ∧ s.BrokenTime h) := fun other => time ⟨h, other.1⟩
      simp [Rejected.because, misfit, none]

/-- How the edit of one setting ends. -/
structure EditVerdict (f : Setting) (raw : String) (s : Settings) : Prop where
  /-- It is refused exactly if the text does not fit, or if the setting is a
  time and the other time is broken. -/
  refused : (∃ r, enter f raw s = .error r) ↔ ¬ Fits f raw ∨ ∃ g, OtherTime f g ∧ s.BrokenTime g
  /-- A refusal mentions the setting if the text does not fit, the other time
  if that is broken, and nothing else. -/
  mentions : ∀ r, enter f raw s = .error r → ∀ name, r.mentions name = true
    ↔ (name = f.wireName ∧ ¬ Fits f raw)
      ∨ ∃ g, OtherTime f g ∧ s.BrokenTime g ∧ name = g.wireName
  /-- Unless the other time is broken, the text alone decides, and a refusal
  mentions no other setting. -/
  alone : (∀ g, OtherTime f g → ¬ s.BrokenTime g) →
    ((∃ r, enter f raw s = .error r) ↔ ¬ Fits f raw)
      ∧ ∀ r, enter f raw s = .error r → ∀ name, r.mentions name = true ↔ name = f.wireName

/-- **An edit is judged by its text, and an edit of a time by the other time as
well.**  Whatever else the settings hold does not matter. -/
theorem edits_are_judged_with_the_other_time (f : Setting) (raw : String) (s : Settings) :
    EditVerdict f raw s := by
  have mentions : ∀ r, enter f raw s = .error r → ∀ name, r.mentions name = true
      ↔ (name = f.wireName ∧ ¬ Fits f raw)
        ∨ ∃ g, OtherTime f g ∧ s.BrokenTime g ∧ name = g.wireName := by
    intro r refused name
    simp only [Rejected.mentions_iff, names_of_enter_error refused]
    constructor
    · rintro ⟨h, ⟨rfl, misfit⟩ | ⟨other, broken⟩, same⟩
      · exact .inl ⟨same, misfit⟩
      · exact .inr ⟨h, other, broken, same⟩
    · rintro (⟨same, misfit⟩ | ⟨g, other, broken, same⟩)
      · exact ⟨f, .inl ⟨rfl, misfit⟩, same⟩
      · exact ⟨g, .inr ⟨other, broken⟩, same⟩
  refine ⟨enter_eq_error_iff, mentions, fun whole => ?_⟩
  have none : ¬ ∃ g, OtherTime f g ∧ s.BrokenTime g := fun ⟨g, other, broken⟩ => whole g other broken
  have judged : (∃ r, enter f raw s = .error r) ↔ ¬ Fits f raw :=
    enter_eq_error_iff.trans (or_iff_left none)
  refine ⟨judged, fun r refused name => (mentions r refused name).trans ?_⟩
  have misfit : ¬ Fits f raw := judged.mp ⟨r, refused⟩
  have absent : ¬ ∃ g, OtherTime f g ∧ s.BrokenTime g ∧ name = g.wireName :=
    fun ⟨g, other, broken, _⟩ => whole g other broken
  rw [or_iff_left absent, and_iff_left misfit]

/-- Two stored times that are broken can be mended by no edit of one of them: a
text that fits is refused as well, and the refusal mentions the other time. -/
theorem broken_times_are_not_mended_alone :
    let s : Settings := { pingInterval := "soon", pingTimeout := "later" }
    Settings.codec.decode s.json = .ok s ∧ Fits .pingInterval "3s"
      ∧ (∃ r, enter .pingInterval "3s" s = .error r ∧ r.mentions "pingTimeout" = true
        ∧ r.mentions "pingInterval" = false)
      ∧ ∀ raw, (∃ r, enter .pingInterval raw s = .error r) ∧ ∃ r, enter .pingTimeout raw s = .error r := by
  intro s
  have unread : Duration.parse "soon" = .error (.numberExpected 0) := rfl
  have unread' : Duration.parse "later" = .error (.numberExpected 0) := rfl
  have interval : s.BrokenTime .pingInterval := fun d same => by cases unread.symm.trans same
  have timeout : s.BrokenTime .pingTimeout := fun d same => by cases unread'.symm.trans same
  have fits : Fits .pingInterval "3s" := ⟨.ofParts 3 0, rfl⟩
  have refusal (raw : String) : ∃ r, enter .pingInterval raw s = .error r :=
    enter_eq_error_iff.mpr (.inr ⟨_, .interval, timeout⟩)
  have stored : Settings.codec.decode s.json = .ok s := codec_lawful.decode_encode s
  refine ⟨stored, fits, ?_, fun raw => ⟨refusal raw, ?_⟩⟩
  · obtain ⟨r, refused⟩ := refusal "3s"
    have other : r.mentions "pingTimeout" = true := Rejected.mentions_iff.mpr
      ⟨.pingTimeout, (names_of_enter_error refused).mpr (.inr ⟨.interval, timeout⟩), rfl⟩
    refine ⟨r, refused, other, Bool.eq_false_iff.mpr fun mentioned => ?_⟩
    obtain ⟨f, named, same⟩ := Rejected.mentions_iff.mp mentioned
    obtain rfl : f = .pingInterval := Setting.wireName_injective same.symm
    rcases (names_of_enter_error refused).mp named with ⟨-, misfit⟩ | ⟨other, -⟩
    · exact misfit fits
    · cases other
  · exact enter_eq_error_iff.mpr (.inr ⟨_, .timeout, interval⟩)

/-! ## §5. The other settings. -/

/-- What is written of a setting. -/
def entry (s : Settings) : Setting → Json.Value
  | .endpoint => .text s.endpoint
  | .id => .text s.id
  | .secret => .text s.secret
  | .userToken => .text s.userToken
  | .orgId => .text s.orgId
  | .mtu => .integer s.mtu.toNat
  | .dns => .text s.dns
  | .upstreamDns => .sequence (s.upstreamDns.map .text)
  | .holepunch => .boolean s.holepunch
  | .tunnelDns => .boolean s.tunnelDns
  | .overrideDns => .boolean s.overrideDns
  | .pingInterval => .text s.pingInterval
  | .pingTimeout => .text s.pingTimeout
  | .logLevel => .text s.logLevel

/-- **The settings are written one by one.** -/
theorem toValue_eq (s : Settings) :
    codec.toValue s = .record (Setting.all.map fun f => (f.wireName, s.entry f)) := rfl

theorem entry_setText (other : g ≠ f) (value : String) (s : Settings) :
    (s.setText f value).entry g = s.entry g := by
  cases f <;> cases g <;> first | exact absurd rfl other | rfl

theorem entry_setFlag (other : g ≠ f) (b : Bool) (s : Settings) :
    (s.setFlag f b).entry g = s.entry g := by
  cases f <;> cases g <;> first | exact absurd rfl other | rfl

theorem entry_setUpstreamDns (other : g ≠ .upstreamDns) (servers : List String) (s : Settings) :
    (s.setUpstreamDns servers).entry g = s.entry g := by
  unfold setUpstreamDns
  generalize cleanServers servers = kept
  cases g <;> first | exact absurd rfl other | rfl

/-- **An accepted text changes its own setting alone.** -/
theorem Entered.entry (entered : Entered raw s f x) (other : g ≠ f) : x.entry g = s.entry g := by
  cases entered with
  | text plain => exact entry_setText other _ s
  | mtu n usable => cases g <;> first | exact absurd rfl other | rfl
  | servers => exact entry_setUpstreamDns other _ s
  | flag b => exact entry_setFlag other b s
  | level l => cases g <;> first | exact absurd rfl other | rfl
  | time _ _ => exact entry_setText other _ s

end Settings

end TunnelControl
