/-
  TunnelControl.Proofs.Wire.RoundTrip
  ───────────────────────────────────
  **BODIES ARE READ BACK AS THEY WERE WRITTEN.**

  Each body is a record of lawful fields under names of its own, so its codec
  is lawful: every layout of a body, and the compact text in particular, is
  decoded to that body.

    • `ConnectBody.codec_lawful`, `SettingsUpdate.codec_lawful`, `Alias.codec_lawful`,
      `Peer.codec_lawful`, `PeerStatus.codec_lawful`, `Status.codec_lawful`,
      `Settings.codec_lawful`,
    • `bodies_are_read_back`.
-/
import TunnelControl.Proofs.Json.Record
import TunnelControl.Settings.Basic
import TunnelControl.Wire.Peer
import TunnelControl.Wire.Request
import TunnelControl.Wire.Status

namespace TunnelControl

open Json

namespace Wire

/-! ## §1. What is sent to the engine. -/

/-- A string is never written as `null`. -/
theorem text_ne_null (s : String) : Codec.text.toValue s ≠ .null := by
  intro h
  cases h

theorem ConnectBody.codec_lawful : ConnectBody.codec.Lawful := by
  have text := Codec.text_lawful
  have boolean := Codec.boolean_lawful
  refine Codec.record_lawful ?_ _ fun b => rfl
  -- the fields in the declared order, each under a name that no later one has
  refine ⟨.required text _, by decide, ?_⟩
  refine ⟨.required text _, by decide, ?_⟩
  refine ⟨.required text _, by decide, ?_⟩
  refine ⟨.omittable text text_ne_null _, by decide, ?_⟩
  refine ⟨.required text _, by decide, ?_⟩
  refine ⟨.required Codec.uint16_lawful _, by decide, ?_⟩
  refine ⟨.required text _, by decide, ?_⟩
  refine ⟨.defaulted (Codec.list_lawful text) _ _, by decide, ?_⟩
  refine ⟨.required boolean _, by decide, ?_⟩
  refine ⟨.required boolean _, by decide, ?_⟩
  refine ⟨.required boolean _, by decide, ?_⟩
  refine ⟨.required text _, by decide, ?_⟩
  exact ⟨.required text _, by decide, trivial⟩

theorem SettingsUpdate.codec_lawful : SettingsUpdate.codec.Lawful := by
  refine Codec.record_lawful ?_ _ fun u => rfl
  exact ⟨.omittable Codec.text_lawful text_ne_null _, by decide, trivial⟩

/-! ## §2. What the engine answers. -/

theorem Alias.codec_lawful : Alias.codec.Lawful := by
  have text := Codec.text_lawful
  refine Codec.record_lawful ?_ _ fun a => rfl
  refine ⟨.required text _, by decide, ?_⟩
  exact ⟨.required text _, by decide, trivial⟩

theorem Peer.codec_lawful : Peer.codec.Lawful := by
  have text := Codec.text_lawful
  have boolean := Codec.boolean_lawful
  have int64 := Codec.int64_lawful
  refine Codec.record_lawful ?_ _ fun p => rfl
  refine ⟨.required int64 _, by decide, ?_⟩
  refine ⟨.defaulted text _ _, by decide, ?_⟩
  refine ⟨.defaulted boolean _ _, by decide, ?_⟩
  refine ⟨.defaulted int64 _ _, by decide, ?_⟩
  refine ⟨.defaulted text _ _, by decide, ?_⟩
  refine ⟨.omittable text text_ne_null _, by decide, ?_⟩
  refine ⟨.defaulted boolean _ _, by decide, ?_⟩
  refine ⟨.defaulted boolean _ _, by decide, ?_⟩
  refine ⟨.defaulted (Codec.list_lawful text) _ _, by decide, ?_⟩
  exact ⟨.defaulted (Codec.list_lawful Alias.codec_lawful) _ _, by decide, trivial⟩

theorem PeerStatus.codec_lawful : PeerStatus.codec.Lawful := by
  have text := Codec.text_lawful
  have boolean := Codec.boolean_lawful
  have int64 := Codec.int64_lawful
  refine Codec.record_lawful ?_ _ fun p => rfl
  refine ⟨.required int64 _, by decide, ?_⟩
  refine ⟨.defaulted text _ _, by decide, ?_⟩
  refine ⟨.defaulted boolean _ _, by decide, ?_⟩
  refine ⟨.defaulted int64 _ _, by decide, ?_⟩
  refine ⟨.defaulted text _ _, by decide, ?_⟩
  exact ⟨.defaulted boolean _ _, by decide, trivial⟩

theorem Status.codec_lawful : Status.codec.Lawful := by
  have text := Codec.text_lawful
  have boolean := Codec.boolean_lawful
  refine Codec.record_lawful ?_ _ fun s => rfl
  refine ⟨.defaulted boolean _ _, by decide, ?_⟩
  refine ⟨.defaulted boolean _ _, by decide, ?_⟩
  refine ⟨.defaulted boolean _ _, by decide, ?_⟩
  refine ⟨.defaulted text _ _, by decide, ?_⟩
  refine ⟨.defaulted text _ _, by decide, ?_⟩
  refine ⟨.defaulted text _ _, by decide, ?_⟩
  exact ⟨.defaulted (Codec.list_lawful PeerStatus.codec_lawful) _ _, by decide, trivial⟩

end Wire

/-! ## §3. What is kept. -/

theorem Settings.codec_lawful : Settings.codec.Lawful := by
  have text := Codec.text_lawful
  have boolean := Codec.boolean_lawful
  refine Codec.record_lawful ?_ _ fun s => rfl
  refine ⟨.defaulted text _ _, by decide, ?_⟩
  refine ⟨.defaulted text _ _, by decide, ?_⟩
  refine ⟨.defaulted text _ _, by decide, ?_⟩
  refine ⟨.defaulted text _ _, by decide, ?_⟩
  refine ⟨.defaulted text _ _, by decide, ?_⟩
  refine ⟨.defaulted Codec.uint32_lawful _ _, by decide, ?_⟩
  refine ⟨.defaulted text _ _, by decide, ?_⟩
  refine ⟨.defaulted (Codec.list_lawful text) _ _, by decide, ?_⟩
  refine ⟨.defaulted boolean _ _, by decide, ?_⟩
  refine ⟨.defaulted boolean _ _, by decide, ?_⟩
  refine ⟨.defaulted boolean _ _, by decide, ?_⟩
  refine ⟨.defaulted text _ _, by decide, ?_⟩
  refine ⟨.defaulted text _ _, by decide, ?_⟩
  exact ⟨.defaulted text _ _, by decide, trivial⟩

/-! ## §4. The main result. -/

namespace Wire

/-- **Every value of a body is decoded from the text that it is encoded as**,
also by the readers of the engine's answers. -/
theorem bodies_are_read_back :
    (ConnectBody.codec.RoundTrips ∧ SettingsUpdate.codec.RoundTrips ∧ Settings.codec.RoundTrips
      ∧ Status.codec.RoundTrips ∧ PeerStatus.codec.RoundTrips ∧ Peer.codec.RoundTrips
      ∧ Alias.codec.RoundTrips ∧ Peer.listCodec.RoundTrips)
    ∧ (∀ s, Status.decode (Status.codec.encode s) = .ok s)
    ∧ ∀ ps, Peer.decodeList (Peer.listCodec.encode ps) = .ok ps := by
  have status := Status.codec_lawful.decode_encode
  have peers := (Codec.list_lawful Peer.codec_lawful).decode_encode
  refine ⟨⟨ConnectBody.codec_lawful.decode_encode, SettingsUpdate.codec_lawful.decode_encode,
    Settings.codec_lawful.decode_encode, status, PeerStatus.codec_lawful.decode_encode,
    Peer.codec_lawful.decode_encode, Alias.codec_lawful.decode_encode, peers⟩, ?_, ?_⟩
  · intro s
    unfold Status.decode
    rw [status s]
    rfl
  · intro ps
    unfold Peer.decodeList Peer.listCodec
    rw [peers ps]
    rfl

/-- An empty token is written and no token is not; both are read back. -/
example :
    SettingsUpdate.codec.encode ⟨some ""⟩ = "\x7b\"logLevel\":\"\"\x7d"
      ∧ SettingsUpdate.codec.encode ⟨none⟩ = "\x7b\x7d" := by
  decide +kernel

end Wire

end TunnelControl
