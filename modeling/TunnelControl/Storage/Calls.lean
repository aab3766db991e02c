/-
  TunnelControl.Storage.Calls
  ───────────────────────────
  **CALLS OF A STORE AS DATA.**

  A history of a store is a list of calls.  A secret store has no state
  beside its storage, and the settings in memory are read from it, so making
  a store anew over the same storage is a call like others.

    • `StoreCall`, `StoreReply` — what is asked and what is answered,
    • `SecretStore.call`, `SecretStore.run` — one call, and many in a row,
    • `SettingsCall`, `SettingsReply`, `SettingsStore.call`,
      `SettingsStore.run` — the same for the settings.
-/
import TunnelControl.Storage.SettingsStore

namespace TunnelControl

/-- What a store is called for. -/
inductive StoreCall where
  | get (key : String)
  | put (key value : String)
  | remove (key : String)
  | keys
  | clear
  /-- The store is given up and made anew over its storage. -/
  | reopen

/-- What a call gives. -/
inductive StoreReply where
  | done
  | text (value : Option String)
  | keys (names : List String)

namespace SecretStore

variable {σ : Type}

/-- Carries out a call. -/
def call (backend : SecretStore σ) : StoreCall → Storing σ StoreReply
  | .get key => StoreReply.text <$> backend.get key
  | .put key value => (fun _ => .done) <$> backend.put key value
  | .remove key => (fun _ => .done) <$> backend.remove key
  | .keys => StoreReply.keys <$> backend.keys
  | .clear => (fun _ => .done) <$> backend.clear
  | .reopen => pure .done

/-- The storage after calls in a row.  A call that fails does not stop those
that follow. -/
def run (backend : SecretStore σ) (calls : List StoreCall) (s : σ) : σ :=
  calls.foldl (fun s c => ((backend.call c).on s).2) s

end SecretStore

/-- What the settings store is called for. -/
inductive SettingsCall where
  /-- The store is given up and made anew over its storage. -/
  | reopen
  | reload
  | save (settings : Settings)
  | update (change : Settings → Except Rejected Settings)
  | clear
  | getText (key : String)
  | putText (key value : String)

/-- What a call of the settings store gives. -/
inductive SettingsReply where
  | done
  | settings (s : Settings)
  | text (value : Option String)

namespace SettingsStore

variable {σ : Type}

/-- Carries out a call. -/
def call (backend : SecretStore σ) : SettingsCall → Storing (SettingsStore σ) SettingsReply
  | .reopen => .act fun s =>
      let s := load backend s.storage
      (.ok (.settings s.current), s)
  | .reload => .act fun s =>
      let s := reload backend s
      (.ok (.settings s.current), s)
  | .save settings => (fun _ => .done) <$> save backend settings
  | .update change => SettingsReply.settings <$> update backend change
  | .clear => (fun _ => .done) <$> clear backend
  | .getText key => SettingsReply.text <$> getText backend key
  | .putText key value => (fun _ => .done) <$> putText backend key value

/-- The store after calls in a row.  A call that fails does not stop those
that follow. -/
def run (backend : SecretStore σ) (calls : List SettingsCall) (s : SettingsStore σ) :
    SettingsStore σ :=
  calls.foldl (fun s c => ((call backend c).on s).2) s

end SettingsStore

end TunnelControl
