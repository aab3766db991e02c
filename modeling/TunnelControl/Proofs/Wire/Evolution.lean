/-
  TunnelControl.Proofs.Wire.Evolution
  ───────────────────────────────────
  **BODIES OF OTHER VERSIONS.**

  An engine of another version orders the members of its records in another
  way, adds some, or leaves out some.  The reader takes no notice of the first
  two, at any record of a body, and fills in what is missing.

    • `Alias.change`, `Peer.change`, `PeerStatus.change`, `Status.change`,
      `ConnectBody.change`, `SettingsUpdate.change`, `Settings.change` — what
      may change in a body, and what becomes of its value,
    • `bodies_are_read_across_versions`.
-/
import TunnelControl.Proofs.Json.Change
import TunnelControl.Proofs.Wire.RoundTrip

namespace TunnelControl

open Json

namespace Wire

/-! ## §1. What the engine answers. -/

/-- A change of an alias. -/
def Alias.change (losing : Bool) : Change Alias :=
  .record losing fields fields.still ofRow toRow

/-- A change of a peer, or of one of its aliases. -/
def Peer.change (losing : Bool) : Change Peer :=
  .record losing fields
    (.cons .never (.cons .never (.cons .never (.cons .never (.cons .never (.cons .never
      (.cons .never (.cons .never (.cons .never (.cons (.items (Alias.change losing)) .nil))))))))))
    ofRow toRow

/-- A change of one of the peers in a list. -/
def Peer.listChange (losing : Bool) : Change (List Peer) := .items (Peer.change losing)

/-- A change of the short entry of a peer. -/
def PeerStatus.change (losing : Bool) : Change PeerStatus :=
  .record losing fields fields.still ofRow toRow

/-- A change of a snapshot, or of one of its entries. -/
def Status.change (losing : Bool) : Change Status :=
  .record losing fields
    (.cons .never (.cons .never (.cons .never (.cons .never (.cons .never (.cons .never
      (.cons (.items (PeerStatus.change losing)) .nil)))))))
    ofRow toRow

theorem Alias.codec_follows (losing : Bool) : Alias.codec.Follows (Alias.change losing) := by
  have text := Codec.text_uniform
  have uniform : Alias.fields.Uniform := ⟨text, text, trivial⟩
  exact Codec.record_follows _ uniform.follows_still (fun _ => rfl) losing

theorem Peer.codec_follows (losing : Bool) : Peer.codec.Follows (Peer.change losing) := by
  have text := Codec.text_uniform.follows_never
  have boolean := Codec.boolean_uniform.follows_never
  have int64 := Codec.int64_uniform.follows_never
  have key := (Codec.optional_uniform Codec.text_uniform).follows_never
  have subnets := (Codec.list_uniform Codec.text_uniform).follows_never
  have aliases := Codec.list_follows (Alias.codec_follows losing)
  refine Codec.record_follows _ ?_ (fun _ => rfl) losing
  exact ⟨int64, text, boolean, int64, text, key, boolean, boolean, subnets, aliases, trivial⟩

theorem PeerStatus.codec_follows (losing : Bool) :
    PeerStatus.codec.Follows (PeerStatus.change losing) := by
  have text := Codec.text_uniform
  have boolean := Codec.boolean_uniform
  have int64 := Codec.int64_uniform
  have uniform : PeerStatus.fields.Uniform := ⟨int64, text, boolean, int64, text, boolean, trivial⟩
  exact Codec.record_follows _ uniform.follows_still (fun _ => rfl) losing

theorem Status.codec_follows (losing : Bool) : Status.codec.Follows (Status.change losing) := by
  have text := Codec.text_uniform.follows_never
  have boolean := Codec.boolean_uniform.follows_never
  have peers := Codec.list_follows (PeerStatus.codec_follows losing)
  refine Codec.record_follows _ ?_ (fun _ => rfl) losing
  exact ⟨boolean, boolean, boolean, text, text, text, peers, trivial⟩

theorem Alias.change_silent : (Alias.change false).Silent :=
  Change.record_silent _ (Fields.still_silent _) fun _ => rfl

/-- Unless a member is lost, a change does nothing to a peer. -/
theorem Peer.change_silent : (Peer.change false).Silent := by
  have never : ∀ {α : Type}, (Change.never : Change α).Silent := Change.never_silent
  have aliases := Change.items_silent Alias.change_silent
  refine Change.record_silent _ ?_ fun _ => rfl
  exact ⟨never, never, never, never, never, never, never, never, never, aliases, trivial⟩

theorem PeerStatus.change_silent : (PeerStatus.change false).Silent :=
  Change.record_silent _ (Fields.still_silent _) fun _ => rfl

/-- Unless a member is lost, a change does nothing to a snapshot. -/
theorem Status.change_silent : (Status.change false).Silent := by
  have never : ∀ {α : Type}, (Change.never : Change α).Silent := Change.never_silent
  have peers := Change.items_silent PeerStatus.change_silent
  refine Change.record_silent _ ?_ fun _ => rfl
  exact ⟨never, never, never, never, never, never, peers, trivial⟩

/-! ## §2. What is sent to the engine. -/

/-- A change of a connect body. -/
def ConnectBody.change (losing : Bool) : Change ConnectBody :=
  .record losing fields fields.still ofRow toRow

/-- A change of a settings update. -/
def SettingsUpdate.change (losing : Bool) : Change SettingsUpdate :=
  .record losing fields fields.still ofRow toRow

theorem ConnectBody.codec_follows (losing : Bool) :
    ConnectBody.codec.Follows (ConnectBody.change losing) := by
  have text := Codec.text_uniform
  have boolean := Codec.boolean_uniform
  have token := Codec.optional_uniform text
  have servers := Codec.list_uniform text
  have uniform : ConnectBody.fields.Uniform :=
    ⟨text, text, text, token, text, Codec.uint16_uniform, text, servers, boolean, boolean, boolean,
      text, text, trivial⟩
  exact Codec.record_follows _ uniform.follows_still (fun _ => rfl) losing

theorem SettingsUpdate.codec_follows (losing : Bool) :
    SettingsUpdate.codec.Follows (SettingsUpdate.change losing) := by
  have uniform : SettingsUpdate.fields.Uniform :=
    ⟨Codec.optional_uniform Codec.text_uniform, trivial⟩
  exact Codec.record_follows _ uniform.follows_still (fun _ => rfl) losing

theorem ConnectBody.change_silent : (ConnectBody.change false).Silent :=
  Change.record_silent _ (Fields.still_silent _) fun _ => rfl

theorem SettingsUpdate.change_silent : (SettingsUpdate.change false).Silent :=
  Change.record_silent _ (Fields.still_silent _) fun _ => rfl

end Wire

/-! ## §3. What is kept. -/

/-- A change of the settings. -/
def Settings.change (losing : Bool) : Change Settings :=
  .record losing fields fields.still ofRow toRow

theorem Settings.codec_follows (losing : Bool) :
    Settings.codec.Follows (Settings.change losing) := by
  have text := Codec.text_uniform
  have boolean := Codec.boolean_uniform
  have servers := Codec.list_uniform text
  have uniform : Settings.fields.Uniform :=
    ⟨text, text, text, text, text, Codec.uint32_uniform, text, servers, boolean, boolean, boolean,
      text, text, text, trivial⟩
  exact Codec.record_follows _ uniform.follows_still (fun _ => rfl) losing

theorem Settings.change_silent : (Settings.change false).Silent :=
  Change.record_silent _ (Fields.still_silent _) fun _ => rfl

/-! ## §4. The main result. -/

namespace Wire

/-- **The order of members and unknown members do not matter in any record of a
body, and a missing member counts as its fallback.** -/
theorem bodies_are_read_across_versions :
    ReadsAcrossVersions Status.decode Status.change
    ∧ ReadsAcrossVersions Peer.decodeList Peer.listChange
    ∧ ReadsAcrossVersions ConnectBody.codec.decode ConnectBody.change
    ∧ ReadsAcrossVersions SettingsUpdate.codec.decode SettingsUpdate.change
    ∧ ReadsAcrossVersions Settings.codec.decode Settings.change := by
  have peers : ∀ losing, Peer.listCodec.Follows (Peer.listChange losing) :=
    fun losing => Codec.list_follows (Peer.codec_follows losing)
  refine ⟨?status, ?peers, ?connect, ?update, ?settings⟩
  case status =>
    exact Codec.Follows.readsAcrossVersions Status.codec_follows Status.change_silent
      Status.codec_lawful fun _ _ => mapError_eq_ok_iff
  case peers =>
    exact Codec.Follows.readsAcrossVersions peers (Change.items_silent Peer.change_silent)
      (Codec.list_lawful Peer.codec_lawful) fun _ _ => mapError_eq_ok_iff
  case connect =>
    exact Codec.Follows.readsAcrossVersions ConnectBody.codec_follows ConnectBody.change_silent
      ConnectBody.codec_lawful fun _ _ => Iff.rfl
  case update =>
    exact Codec.Follows.readsAcrossVersions SettingsUpdate.codec_follows
      SettingsUpdate.change_silent SettingsUpdate.codec_lawful fun _ _ => Iff.rfl
  case settings =>
    exact Codec.Follows.readsAcrossVersions Settings.codec_follows Settings.change_silent
      Settings.codec_lawful fun _ _ => Iff.rfl

/-- A member that nobody knows is skipped, here one of a peer. -/
example :
    (Status.decode "\x7b\"peers\":[\x7b\"z\":[-1e999],\"siteId\":7\x7d]\x7d").toOption
      = (Status.decode "\x7b\"peers\":[\x7b\"siteId\":7\x7d]\x7d").toOption := by
  decide +kernel

/-- Without aliases, a peer has none. -/
example (p : Peer) :
    ((Peer.fields.place? "aliases").bind Peer.fields.reset).map (fun g => Peer.ofRow (g p.toRow))
      = some { p with aliases := [] } :=
  rfl

/-- Without a packet size, the settings have the usual one. -/
example (s : Settings) :
    ((Settings.fields.place? "mtu").bind Settings.fields.reset).map
        (fun g => Settings.ofRow (g s.toRow))
      = some { s with mtu := 1420 } :=
  rfl

end Wire

end TunnelControl
