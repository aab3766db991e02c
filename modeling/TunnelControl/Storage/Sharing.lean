/-
  TunnelControl.Storage.Sharing
  ─────────────────────────────
  **SEVERAL CLIENTS OF ONE SETTINGS STORE.**

  A client that updates the settings edits them in memory, which nobody can
  interrupt, and stores what came of it afterwards.  Between the two, other
  clients can have their turns.

    • `UpdateStage`      — how far the update of a client is,
    • `SharedStore.turn` — a client goes one step further,
    • `SharedStore.run`  — clients take turns.
-/
import TunnelControl.Storage.SettingsStore

namespace TunnelControl

/-- How far the update of a client is. -/
inductive UpdateStage where
  | waiting (change : Settings → Except Rejected Settings)
  /-- The settings in memory are edited, and not yet stored. -/
  | edited (settings : Settings)
  | answered (result : Except StorageError Settings)

/-- A settings store and its clients. -/
structure SharedStore (σ ι : Type) where
  store : SettingsStore σ
  stage : ι → UpdateStage

namespace SharedStore

variable {σ ι : Type} [DecidableEq ι]

/-- A client is at a stage now, and the store may have changed. -/
def proceed (i : ι) (stage : UpdateStage) (store : SettingsStore σ) (s : SharedStore σ ι) :
    SharedStore σ ι where
  store := store
  stage := fun j => if j = i then stage else s.stage j

/-- The next step of a client. -/
def turn (backend : SecretStore σ) (i : ι) (s : SharedStore σ ι) : SharedStore σ ι :=
  match s.stage i with
  | .waiting change =>
      match (SettingsStore.edit change).on s.store with
      | (.ok settings, store) => s.proceed i (.edited settings) store
      | (.error e, store) => s.proceed i (.answered (.error e)) store
  | .edited settings =>
      match (SettingsStore.persist backend settings).on s.store with
      | (.ok (), store) => s.proceed i (.answered (.ok settings)) store
      | (.error e, store) => s.proceed i (.answered (.error e)) store
  | .answered _ => s

/-- Clients take turns. -/
def run (backend : SecretStore σ) (turns : List ι) (s : SharedStore σ ι) : SharedStore σ ι :=
  turns.foldl (fun s i => turn backend i s) s

end SharedStore

end TunnelControl
