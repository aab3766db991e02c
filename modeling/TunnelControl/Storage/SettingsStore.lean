/-
  TunnelControl.Storage.SettingsStore
  ───────────────────────────────────
  **THE SETTINGS IN A SECRET STORE.**

  The settings are one text of a secret store and are also held in memory.
  Reading never fails: what is missing or cannot be read gives the defaults.
  A change is made in memory first and then stored; if storing fails, the
  change in memory stays.

    • `SettingsStore.load`, `SettingsStore.reload`,
    • `SettingsStore.save`, `SettingsStore.update`, `SettingsStore.clear`,
    • `SettingsStore.getText`, `SettingsStore.putText`.
-/
import TunnelControl.Settings.Basic
import TunnelControl.Storage.SecretStore

namespace TunnelControl

/-- A storage together with the settings in memory. -/
structure SettingsStore (σ : Type) where
  storage : σ
  current : Settings

namespace SettingsStore

variable {σ : Type}

/-- The key of the settings. -/
def key : String := "settings"

/-! ## §1. Reading. -/

/-- An MTU out of range is replaced by the default. -/
def repaired (s : Settings) : Settings :=
  if mtuInRange s.mtu.toNat then s else { s with mtu := Settings.default.mtu }

/-- The settings that a stored text stands for. -/
def ofStored (raw : Option String) : Settings :=
  match raw with
  | none => Settings.default
  | some raw =>
      match Settings.codec.decode raw with
      | .ok s => repaired s
      | .error _ => Settings.default

/-- Reads the settings from a storage. -/
def readFrom (backend : SecretStore σ) (storage : σ) : Settings × σ :=
  match (backend.get key).on storage with
  | (.ok raw, storage) => (ofStored raw, storage)
  | (.error _, storage) => (Settings.default, storage)

/-- Takes up a storage. -/
def load (backend : SecretStore σ) (storage : σ) : SettingsStore σ :=
  let (settings, storage) := readFrom backend storage
  ⟨storage, settings⟩

/-- Reads the settings again. -/
def reload (backend : SecretStore σ) (s : SettingsStore σ) : SettingsStore σ :=
  load backend s.storage

/-! ## §2. Writing. -/

/-- Does something on the storage. -/
def onStorage {α : Type} (x : Storing σ α) : Storing (SettingsStore σ) α :=
  x.within (·.storage) fun storage s => { s with storage := storage }

/-- Replaces the settings in memory. -/
def hold (settings : Settings) : Storing (SettingsStore σ) Unit :=
  .change fun s => { s with current := settings }

/-- Stores settings. -/
def persist (backend : SecretStore σ) (settings : Settings) : Storing (SettingsStore σ) Unit :=
  onStorage (backend.put key settings.json)

/-- Replaces the settings. -/
def save (backend : SecretStore σ) (settings : Settings) : Storing (SettingsStore σ) Unit := do
  hold settings
  persist backend settings

/-- Edits the settings in memory.  A rejected edit changes nothing. -/
def edit (change : Settings → Except Rejected Settings) : Storing (SettingsStore σ) Settings := do
  let settings ← Storing.ofExcept .rejected (change (← .look (·.current)))
  hold settings
  return settings

/-- Edits the settings in memory, then stores what came of it. -/
def update (backend : SecretStore σ) (change : Settings → Except Rejected Settings) :
    Storing (SettingsStore σ) Settings := do
  let settings ← edit change
  persist backend settings
  return settings

/-- Goes back to the defaults and clears the storage. -/
def clear (backend : SecretStore σ) : Storing (SettingsStore σ) Unit := do
  hold Settings.default
  onStorage backend.clear

/-! ## §3. Other texts. -/

/-- The text of a key. -/
def getText (backend : SecretStore σ) (key : String) : Storing (SettingsStore σ) (Option String) :=
  onStorage (backend.get key)

/-- Keeps a text under a key. -/
def putText (backend : SecretStore σ) (key value : String) : Storing (SettingsStore σ) Unit :=
  onStorage (backend.put key value)

/-- The debug text, which names the backend alone. -/
def debugText (backend : SecretStore σ) : String :=
  Text.debugRecord "SettingsStore" [("backend", Text.quoted backend.name)] true

end SettingsStore

end TunnelControl
