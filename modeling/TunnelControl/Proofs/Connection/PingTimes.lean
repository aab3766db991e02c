/-
  TunnelControl.Proofs.Connection.PingTimes
  ─────────────────────────────────────────
  **THE ENGINE PINGS AS OFTEN AS THE SETTINGS SAY.**

  A person writes a time in any units, the config holds it as a span, and the
  body names it in the largest unit that loses nothing.  On the way from the
  settings to the engine no nanosecond is lost.

    • `Told`   — what the engine is told of a span,
    • `SentAs` — the text that is sent for a text that was written,
    • `told`, `toConfig_times` — the two ways of a time,
    • `ping_times_are_sent_exactly`.
-/
import TunnelControl.Proofs.Connection.NormalForm
import TunnelControl.Proofs.Duration.ReadBack
import TunnelControl.Settings.Basic

namespace TunnelControl

/-! ## §1. The way of a time. -/

/-- What the engine is told of a span. -/
structure Duration.Told (d : Duration) : Prop where
  /-- It is told a whole number of units that make up the span. -/
  written : Duration.Writes d.engineText d
  /-- It is told something else of any other span. -/
  alone : ∀ e : Duration, e.engineText = d.engineText → e = d
  /-- A person who writes the same means the same: its seconds fit 64 bits, and
  the reader can take it in. -/
  readBack : d.Fits → d.Readable → Duration.parse d.engineText = .ok d

/-- A text is what the engine is sent for the text of a setting. -/
def Duration.SentAs (raw sent : String) : Prop :=
  ∃ d, Duration.parse raw = .ok d ∧ Duration.Writes sent d
    ∧ (d.Readable → Duration.parse sent = .ok d)

theorem Duration.told (d : Duration) : d.Told where
  written := Duration.writes_engineText d
  alone := fun _ same => Duration.engineText_injective same
  readBack := Duration.parse_engineText

theorem Duration.sentAs_engineText {raw : String} {d : Duration} (h : Duration.parse raw = .ok d) :
    Duration.SentAs raw d.engineText :=
  ⟨d, h, d.told.written, d.told.readBack (Duration.parse_fits h)⟩

/-- A config that was made of settings holds the times that their texts denote. -/
theorem Settings.toConfig_times {s : Settings} {c : ConnectionConfig} (h : s.toConfig = .ok c) :
    Duration.parse s.pingInterval = .ok c.pingInterval
      ∧ Duration.parse s.pingTimeout = .ok c.pingTimeout := by
  unfold Settings.toConfig at h
  split at h
  next interval timeout hinterval htimeout =>
    cases h
    exact ⟨hinterval, htimeout⟩
  next => cases h

/-! ## §2. The main result. -/

/-- **Spans are told exactly, and so are the times of the settings.**  The text
of a span is a whole number of units that make it up, no other span has it,
and the reader of the settings takes it back.  So the engine gets the times
that the settings denote. -/
theorem ping_times_are_sent_exactly :
    (∀ d : Duration, d.Told)
      ∧ ∀ (s : Settings) (c : ConnectionConfig) (v : ValidatedConfig),
        s.toConfig = .ok c → c.validate = .ok v →
        ∃ b, Wire.ConnectBody.codec.decode v.json = .ok b
          ∧ Duration.SentAs s.pingInterval b.pingInterval
          ∧ Duration.SentAs s.pingTimeout b.pingTimeout := by
  refine ⟨Duration.told, fun s c v made accepted => ?_⟩
  obtain ⟨interval, timeout⟩ := Settings.toConfig_times made
  obtain ⟨-, body⟩ := ConnectionConfig.validate_eq_ok_iff.mp accepted
  refine ⟨v.body, v.decode_json, ?_⟩
  rw [body]
  exact ⟨Duration.sentAs_engineText interval, Duration.sentAs_engineText timeout⟩

/-- Times of several units are sent in one. -/
theorem times_in_several_units_are_sent_in_one :
    let s : Settings :=
      { endpoint := "vpn", userToken := "t", pingInterval := "1h 30min", pingTimeout := "1.5 ms" }
    ∃ c v b, s.toConfig = .ok c ∧ c.validate = .ok v
      ∧ Wire.ConnectBody.codec.decode v.json = .ok b
      ∧ Duration.SentAs s.pingInterval b.pingInterval
      ∧ Duration.SentAs s.pingTimeout b.pingTimeout
      ∧ (b.pingInterval, b.pingTimeout) = ("5400s", "1500us") := by
  intro s
  let c : ConnectionConfig :=
    { endpoint := "vpn", userToken := some "t", pingInterval := .ofParts 5400 0,
      pingTimeout := .ofParts 0 1500000 }
  have made : s.toConfig = .ok c := by decide +kernel +revert
  have clean : c.problems = [] := by decide +kernel
  have texts : (c.body.pingInterval, c.body.pingTimeout) = ("5400s", "1500us") := by
    decide +kernel
  have accepted : c.validate = .ok ⟨c.body, c, clean, rfl⟩ :=
    ConnectionConfig.validate_eq_ok_iff.mpr ⟨clean, rfl⟩
  obtain ⟨b, read, interval, timeout⟩ := ping_times_are_sent_exactly.2 s c _ made accepted
  have body : b = c.body := by
    rw [ValidatedConfig.decode_json] at read
    exact (Except.ok.inj read).symm
  refine ⟨c, _, b, made, accepted, read, interval, timeout, ?_⟩
  rw [body]
  exact texts

end TunnelControl
