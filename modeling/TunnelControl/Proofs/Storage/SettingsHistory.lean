/-
  TunnelControl.Proofs.Storage.SettingsHistory
  ────────────────────────────────────────────
  **SETTINGS IN MEMORY AND ON THE STORAGE.**

  The settings are in memory and, as one text, on a storage that may refuse
  to put texts.  The two copies differ after a refusal.  What was persisted
  last is followed through a history by the answers alone, and reading the
  settings again always gives just that, with an MTU that can be used.

    • `edit_on`, `persist_on`, `update_on` — what the steps do,
    • `KeptRecord`, `recordAfter`     — what was persisted last,
    • `Keeping`, `Keeping.call`, `Keeping.run` — the storage holds it,
    • `FollowsRecord`                 — rejections, refusals, rereading,
    • `settings_follow_record`        — after every history.
-/
import TunnelControl.Proofs.Connection.Sound
import TunnelControl.Proofs.Storage.Memory
import TunnelControl.Proofs.Wire.RoundTrip

namespace TunnelControl

/-- The settings with an MTU that can be used: their own, or the default. -/
def Settings.withUsableMtu (s : Settings) : Settings :=
  { s with mtu := if 1280 ≤ s.mtu.toNat ∧ s.mtu.toNat ≤ 1500 then s.mtu else 1420 }

namespace SettingsStore

variable {σ : Type} {backend : SecretStore σ}

/-! ## §1. Single steps. -/

theorem repaired_eq (s : Settings) : repaired s = s.withUsableMtu := by
  unfold repaired Settings.withUsableMtu
  by_cases usable : mtuInRange s.mtu.toNat = true
  · rw [if_pos usable, if_pos (ConnectionConfig.mtuInRange_iff.mp usable)]
  · rw [if_neg usable, if_neg (mt ConnectionConfig.mtuInRange_iff.mpr usable)]
    rfl

theorem ofStored_of_decode {raw : String} {s : Settings} (read : Settings.codec.decode raw = .ok s) :
    ofStored (some raw) = s.withUsableMtu := by
  unfold ofStored
  simp only [read, repaired_eq]

theorem ofStored_of_unreadable {raw : String} {e : Json.ReadError}
    (unreadable : Settings.codec.decode raw = .error e) : ofStored (some raw) = .default := by
  unfold ofStored
  simp only [unreadable]

/-- **Whatever the text is, the MTU that is read can be used.** -/
theorem ofStored_mtu (raw : Option String) :
    1280 ≤ (ofStored raw).mtu.toNat ∧ (ofStored raw).mtu.toNat ≤ 1500 := by
  have default : 1280 ≤ Settings.default.mtu.toNat ∧ Settings.default.mtu.toNat ≤ 1500 := by decide
  unfold ofStored
  split
  next => exact default
  next =>
    split
    next s _ =>
      rw [repaired_eq, Settings.withUsableMtu]
      by_cases usable : 1280 ≤ s.mtu.toNat ∧ s.mtu.toNat ≤ 1500
      · rw [if_pos usable]
        exact usable
      · rw [if_neg usable]
        exact default
    next => exact default

theorem load_of_get {storage storage' : σ} {raw : Option String}
    (got : (backend.get key).on storage = (.ok raw, storage')) :
    load backend storage = ⟨storage', ofStored raw⟩ := by
  unfold load readFrom
  rw [got]

/-- An accepted edit changes what is in memory. -/
theorem edit_on {change : Settings → Except Rejected Settings} {s : SettingsStore σ} {x : Settings}
    (accepted : change s.current = .ok x) :
    (edit change).on s = (.ok x, { s with current := x }) := by
  unfold edit
  rw [Storing.on_bind, Storing.on_look]
  show (Storing.ofExcept .rejected (change s.current) >>= _).on s = _
  rw [Storing.on_bind, accepted]
  rfl

/-- A rejected edit changes nothing. -/
theorem edit_on_rejected {change : Settings → Except Rejected Settings} {s : SettingsStore σ}
    {e : Rejected} (rejected : change s.current = .error e) :
    (edit change).on s = (.error (.rejected e), s) := by
  unfold edit
  rw [Storing.on_bind, Storing.on_look]
  show (Storing.ofExcept .rejected (change s.current) >>= _).on s = _
  rw [Storing.on_bind, rejected]
  rfl

theorem persist_on (x : Settings) (s : SettingsStore σ) :
    (persist backend x).on s = (((backend.put key x.json).on s.storage).1,
      { s with storage := ((backend.put key x.json).on s.storage).2 }) := rfl

theorem save_on (x : Settings) (s : SettingsStore σ) :
    (save backend x).on s = (persist backend x).on { s with current := x } := rfl

theorem clear_on (s : SettingsStore σ) :
    (clear backend).on s
      = ((backend.clear.on s.storage).1, ⟨(backend.clear.on s.storage).2, .default⟩) := rfl

theorem getText_on (key : String) (s : SettingsStore σ) :
    (getText backend key).on s = (((backend.get key).on s.storage).1,
      { s with storage := ((backend.get key).on s.storage).2 }) := rfl

theorem putText_on (key value : String) (s : SettingsStore σ) :
    (putText backend key value).on s = (((backend.put key value).on s.storage).1,
      { s with storage := ((backend.put key value).on s.storage).2 }) := rfl

theorem update_on {change : Settings → Except Rejected Settings} {s : SettingsStore σ}
    {x : Settings} (accepted : change s.current = .ok x) :
    (update backend change).on s
      = ((fun _ => x) <$> persist backend x).on { s with current := x } := by
  unfold update
  rw [Storing.on_bind, edit_on accepted]
  exact congrArg (fun y : Storing (SettingsStore σ) Settings => y.on _)
    (bind_pure_comp (fun _ => x) (persist backend x))

theorem update_on_rejected {change : Settings → Except Rejected Settings} {s : SettingsStore σ}
    {e : Rejected} (rejected : change s.current = .error e) :
    (update backend change).on s = (.error (.rejected e), s) := by
  unfold update
  rw [Storing.on_bind, edit_on_rejected rejected]

/-! ## §2. What was persisted last. -/

/-- The record of the settings, by where it comes from. -/
inductive KeptRecord where
  | nothing
  /-- A text that was there before the first call. -/
  | found (raw : String)
  | persisted (settings : Settings)

namespace KeptRecord

/-- The record that a storage begins with. -/
def ofText : Option String → KeptRecord
  | none => nothing
  | some raw => found raw

/-- The text of the record. -/
def text : KeptRecord → Option String
  | nothing => none
  | found raw => some raw
  | persisted s => some s.json

/-- The settings that are read from the record. -/
def read : KeptRecord → Settings
  | nothing => .default
  | found raw =>
      match Settings.codec.decode raw with
      | .ok s => s.withUsableMtu
      | .error _ => .default
  | persisted s => s.withUsableMtu

/-- The record after a call, which its answer tells. -/
def after (r : KeptRecord) (reply : Except StorageError SettingsReply) : SettingsCall → KeptRecord
  | .save settings =>
      match reply with
      | .ok _ => persisted settings
      | .error _ => r
  | .update _ =>
      match reply with
      | .ok (.settings settings) => persisted settings
      | _ => r
  | .clear => nothing
  | _ => r

theorem text_ofText (raw : Option String) : (ofText raw).text = raw := by
  cases raw with
  | none => rfl
  | some raw => rfl

/-- **The text of a record is read as its settings.** -/
theorem ofStored_text (r : KeptRecord) : ofStored r.text = r.read := by
  cases r with
  | nothing => rfl
  | found raw =>
      show ofStored (some raw) = _
      cases decoded : Settings.codec.decode raw with
      | ok s => simp only [read, decoded, ofStored_of_decode decoded]
      | error e => simp only [read, decoded, ofStored_of_unreadable decoded]
  | persisted s => exact ofStored_of_decode (Settings.codec_lawful.decode_encode s)

end KeptRecord

/-- The record after a history. -/
def recordAfter (backend : SecretStore σ) :
    List SettingsCall → KeptRecord → SettingsStore σ → KeptRecord
  | [], r, _ => r
  | c :: calls, r, s =>
      recordAfter backend calls (r.after ((call backend c).on s).1 c) ((call backend c).on s).2

end SettingsStore

namespace SettingsCall

/-- The keys that a call is about can be used, and other texts have other
keys than the settings. -/
def About (usable : String → Prop) : SettingsCall → Prop
  | getText key => usable key
  | putText key _ => usable key ∧ key ≠ SettingsStore.key
  | _ => True

/-- The call puts settings into memory and on the storage. -/
def Stores (current x : Settings) : SettingsCall → Prop
  | save settings => settings = x
  | update change => change current = .ok x
  | _ => False

end SettingsCall

namespace SettingsStore

variable {σ : Type} {backend : SecretStore σ} {u : Upkeep σ}

/-! ## §3. The storage holds the record. -/

/-- **A save and an accepted edit are one.**  The settings in memory are
replaced and then persisted, and the answer says whether they were. -/
theorem call_on_of_stores (backend : SecretStore σ) {c : SettingsCall} {s : SettingsStore σ} {x : Settings}
    (stores : c.Stores s.current x) :
    ∃ reply, (call backend c).on s
        = ((fun _ => reply) <$> persist backend x).on { s with current := x }
      ∧ ∀ r : KeptRecord, r.after (.ok reply) c = .persisted x ∧ ∀ e, r.after (.error e) c = r := by
  cases c with
  | save settings =>
      have same : settings = x := stores
      subst same
      refine ⟨.done, ?_, fun r => ⟨rfl, fun _ => rfl⟩⟩
      rw [call, Storing.on_map, save_on, Storing.on_map]
  | update change =>
      refine ⟨.settings x, ?_, fun r => ⟨rfl, fun _ => rfl⟩⟩
      rw [call, Storing.on_map, update_on stores, Storing.on_map, Storing.on_map]
      cases ((persist backend x).on { s with current := x }).1 with
      | ok a => rfl
      | error e => rfl
  | reopen => cases stores
  | reload => cases stores
  | clear => cases stores
  | getText key => cases stores
  | putText key value => cases stores

/-- **Persisting goes through or is refused**, which leaves the map of the
texts. -/
theorem persist_cases (keeps : backend.Keeps u) (usable : u.usable key) {s : SettingsStore σ}
    {m : Texts} (holds : u.holds s.storage m) (x : Settings) :
    (∃ storage, (persist backend x).on s = (.ok (), { s with storage := storage })
        ∧ u.holds storage (m.assign key (some x.json)))
      ∨ ∃ e storage, (persist backend x).on s = (.error e, { s with storage := storage })
        ∧ u.holds storage m := by
  rw [persist_on]
  rcases keeps.put x.json holds usable with ⟨storage, put, h⟩ | ⟨e, storage, put, h⟩
  · exact .inl ⟨storage, by rw [put], h⟩
  · exact .inr ⟨e, storage, by rw [put], h⟩

/-- The storage holds a record. -/
def Keeping (u : Upkeep σ) (r : KeptRecord) (s : SettingsStore σ) : Prop :=
  ∃ m, u.holds s.storage m ∧ m key = r.text

/-- Reading the storage gives the settings of the record. -/
theorem Keeping.load (keeps : backend.Keeps u) (usable : u.usable key) {r : KeptRecord}
    {s : SettingsStore σ} (h : Keeping u r s) :
    (load backend s.storage).current = r.read ∧ Keeping u r (load backend s.storage) := by
  obtain ⟨m, holds, text⟩ := h
  obtain ⟨storage, got, holds'⟩ := keeps.get holds usable
  rw [load_of_get got]
  exact ⟨by rw [text, KeptRecord.ofStored_text], m, holds', text⟩

/-- What is stored is the record then, unless it is refused. -/
theorem Keeping.stores (keeps : backend.Keeps u) (usable : u.usable key) {r : KeptRecord}
    {s : SettingsStore σ} (h : Keeping u r s) {c : SettingsCall} {x : Settings}
    (stores : c.Stores s.current x) :
    Keeping u (r.after ((call backend c).on s).1 c) ((call backend c).on s).2 := by
  obtain ⟨m, holds, text⟩ := h
  obtain ⟨reply, same, after⟩ := call_on_of_stores backend stores
  rw [same, Storing.on_map]
  rcases persist_cases keeps usable (s := { s with current := x }) holds x with
    ⟨storage, put, holds'⟩ | ⟨e, storage, refused, holds'⟩
  · rw [put]
    show Keeping u (r.after (.ok reply) c) _
    rw [(after r).1]
    exact ⟨_, holds', Texts.assign_self key _ m⟩
  · rw [refused]
    show Keeping u (r.after (.error e) c) _
    rw [(after r).2]
    exact ⟨m, holds', text⟩

/-- **Each call leaves a storage that holds the record it should.** -/
theorem Keeping.call (keeps : backend.Keeps u) (usable : u.usable key) {r : KeptRecord}
    {s : SettingsStore σ} (h : Keeping u r s) {c : SettingsCall} (about : c.About u.usable) :
    Keeping u (r.after ((call backend c).on s).1 c) ((call backend c).on s).2 := by
  cases c with
  | reopen => exact (h.load keeps usable).2
  | reload => exact (h.load keeps usable).2
  | save x => exact h.stores keeps usable (c := .save x) rfl
  | update change =>
      cases edited : change s.current with
      | ok x => exact h.stores keeps usable (c := .update change) edited
      | error e =>
          rw [SettingsStore.call, Storing.on_map, update_on_rejected edited]
          exact h
  | clear =>
      obtain ⟨m, holds, text⟩ := h
      obtain ⟨storage, cleared, holds', -⟩ := keeps.clear holds
      -- all texts are gone, the record among them
      rw [SettingsStore.call, Storing.on_map, clear_on, cleared]
      exact ⟨.none, holds', rfl⟩
  | getText other =>
      obtain ⟨m, holds, text⟩ := h
      obtain ⟨storage, got, holds'⟩ := keeps.get holds about
      rw [SettingsStore.call, Storing.on_map, getText_on, got]
      exact ⟨m, holds', text⟩
  | putText other value =>
      obtain ⟨m, holds, text⟩ := h
      rw [SettingsStore.call, Storing.on_map, putText_on]
      rcases keeps.put value holds about.1 with ⟨storage, put, holds'⟩ | ⟨e, storage, put, holds'⟩
      · rw [put]
        exact ⟨_, holds', (Texts.assign_of_ne about.2 _ m).trans text⟩
      · rw [put]
        exact ⟨m, holds', text⟩

/-- **After every history the storage holds the record of the history.** -/
theorem Keeping.run (keeps : backend.Keeps u) (usable : u.usable key) {r : KeptRecord}
    {s : SettingsStore σ} (h : Keeping u r s) {calls : List SettingsCall}
    (about : ∀ c ∈ calls, c.About u.usable) :
    Keeping u (recordAfter backend calls r s) (run backend calls s) := by
  induction calls generalizing r s with
  | nil => exact h
  | cons c calls ih =>
      exact ih (h.call keeps usable (about c List.mem_cons_self))
        fun d hd => about d (List.mem_cons_of_mem _ hd)

/-! ## §4. What a client sees. -/

/-- How a store with settings in memory behaves while its storage holds a
record. -/
structure FollowsRecord (backend : SecretStore σ) (usable : String → Prop) (s : SettingsStore σ)
    (record : KeptRecord) : Prop where
  /-- A rejected edit changes neither the memory nor the storage. -/
  rejected : ∀ change e, change s.current = .error e →
    (call backend (.update change)).on s = (.error (.rejected e), s)
  /-- What is stored is in memory afterwards, even if it was refused. -/
  memory : ∀ c x, c.Stores s.current x → ((call backend c).on s).2.current = x
  /-- A failure is that of the storage, on which all texts are as they were. -/
  refused : ∀ c x e, c.Stores s.current x → ((call backend c).on s).1 = .error e →
    ((backend.put key x.json).on s.storage).1 = .error e
      ∧ ∀ other, usable other → ((backend.get other).on ((call backend c).on s).2.storage).1
        = ((backend.get other).on s.storage).1
  reloaded : (reload backend s).current = record.read
  reopened : (load backend s.storage).current = record.read

theorem Keeping.followsRecord (keeps : backend.Keeps u) (usable : u.usable key) {r : KeptRecord}
    {s : SettingsStore σ} (h : Keeping u r s) : FollowsRecord backend u.usable s r where
  rejected := by
    intro change e rejected
    rw [SettingsStore.call, Storing.on_map, update_on_rejected rejected]
    rfl
  memory := by
    intro c x stores
    obtain ⟨reply, same, -⟩ := call_on_of_stores backend stores
    rw [same, Storing.on_map, persist_on]
  refused := by
    intro c x e stores failed
    obtain ⟨reply, same, -⟩ := call_on_of_stores backend stores
    obtain ⟨m, holds, -⟩ := h
    rw [same, Storing.on_map] at failed ⊢
    -- only a refusal fails, and it leaves a layout of the same texts
    rcases persist_cases keeps usable (s := { s with current := x }) holds x with
      ⟨storage, put, -⟩ | ⟨e', storage, refused, holds'⟩
    · rw [put] at failed
      cases failed
    · rw [refused] at failed ⊢
      constructor
      · have put : ((backend.put key x.json).on s.storage).1 = .error e' := congrArg (·.1) refused
        rw [put]
        injection failed with failed
        rw [failed]
      · intro other about
        obtain ⟨_, got, -⟩ := keeps.get holds about
        obtain ⟨_, got', -⟩ := keeps.get holds' about
        rw [got, got']
  reloaded := (h.load keeps usable).1
  reopened := (h.load keeps usable).1

/-- **After every history, reading again gives what was persisted last.**  The
storage may refuse any put; whatever text it held at first, the MTU that is
read can be used. -/
theorem settings_follow_record (keeps : backend.Keeps u) (usable : u.usable key)
    {s : SettingsStore σ} {m : Texts} (holds : u.holds s.storage m) {calls : List SettingsCall}
    (about : ∀ c ∈ calls, c.About u.usable) :
    FollowsRecord backend u.usable (run backend calls s)
        (recordAfter backend calls (.ofText (m key)) s)
      ∧ ∀ raw, 1280 ≤ (ofStored raw).mtu.toNat ∧ (ofStored raw).mtu.toNat ≤ 1500 := by
  have start : Keeping u (.ofText (m key)) s := ⟨m, holds, (KeptRecord.text_ofText _).symm⟩
  exact ⟨(start.run keeps usable about).followsRecord keeps usable, ofStored_mtu⟩

/-- A store in memory that holds no readable record and refuses its second
put. -/
def refusingSecondPut : FlakyMemory where
  entries := [(key, "][")]
  refuses := fun n action => action == .set && n == 1

/-- An edit that was refused is in memory alone and is gone with the next
reading, which also gives up an MTU that is too large. -/
theorem refused_edit_is_gone_when_reread :
    let saved : Settings := { endpoint := "vpn", mtu := 9000 }
    let calls := [.save saved, .update fun s => .ok { s with orgId := "org_2" }]
    let s : SettingsStore FlakyMemory := ⟨refusingSecondPut, .default⟩
    (SecretStore.flaky.Keeps .flaky ∧ Upkeep.flaky.usable key
        ∧ Upkeep.flaky.holds s.storage refusingSecondPut.entries.texts
        ∧ ∀ c ∈ calls, SettingsCall.About Upkeep.flaky.usable c)
      ∧ (run .flaky calls s).current = { saved with orgId := "org_2" }
      ∧ (reload .flaky (run .flaky calls s)).current = { saved with mtu := 1420 } := by
  intro saved calls s
  have holds : Upkeep.flaky.holds s.storage refusingSecondPut.entries.texts := by
    refine ⟨fun n action refused => ?_, List.pairwise_singleton _ _, rfl⟩
    exact beq_iff_eq.mp (Bool.and_eq_true_iff.mp refused).1
  have about : ∀ c ∈ calls, SettingsCall.About Upkeep.flaky.usable c := by
    simp [calls, SettingsCall.About]
  obtain ⟨follows, -⟩ := settings_follow_record SecretStore.flaky_keeps trivial holds about
  refine ⟨⟨SecretStore.flaky_keeps, trivial, holds, about⟩, rfl, ?_⟩
  exact follows.reloaded

end SettingsStore

end TunnelControl
