/-
  TunnelControl.Storage.Keyring
  ─────────────────────────────
  **SECRETS IN A KEYRING.**

  A keyring keeps credentials by service and key.  It cannot list them, so
  the store on top of it keeps a list of its keys under a key of its own.
  Every single action of the keyring may be refused and has then no effect.

    • `Keyring`, `EntryAction`,
    • `Keyring.read`, `Keyring.write`, `Keyring.delete`,
    • `SecretStore.keyring` — the store, with its index.
-/
import TunnelControl.Json.Codec
import TunnelControl.Storage.SecretStore

namespace TunnelControl

/-- What a keyring is asked to do. -/
inductive EntryAction where
  /-- To name an entry, which comes before everything else. -/
  | build
  | get
  | set
  | delete
deriving DecidableEq

/-- The name of an action. -/
def EntryAction.name : EntryAction → String
  | build => "build"
  | get => "get"
  | set => "set"
  | delete => "delete"

/-- A keyring with a plan of refusals. -/
structure Keyring where
  secrets : Entries (Entries String) := []
  asked : Nat := 0
  /-- Whether an action is refused, given how many came before it. -/
  refuses : Nat → EntryAction → Bool := fun _ _ => false

namespace Keyring

/-! ## §1. Entries. -/

/-- The secrets of a service. -/
def ofService (service : String) (k : Keyring) : Entries String :=
  (k.secrets.get? service).getD []

/-- Replaces the secrets of a service. -/
def setService (service : String) (secrets : Entries String) (k : Keyring) : Keyring :=
  { k with secrets := k.secrets.insert service secrets }

/-- All secrets with their services and keys, in order. -/
def listing (k : Keyring) : List (String × String × String) :=
  k.secrets.flatMap fun e => e.2.map fun s => (e.1, s.1, s.2)

/-- Asks for an action. -/
def ask (action : EntryAction) : Storing Keyring Unit := do
  let refused ← .look fun k => k.refuses k.asked action
  .change fun k => { k with asked := k.asked + 1 }
  if refused then
    throw (.backend "keyring" ("Attribute " ++ action.name ++ " is invalid: refused"))

/-- The secret of a key. -/
def read (service key : String) : Storing Keyring (Option String) := do
  ask .build
  ask .get
  .look fun k => (k.ofService service).get? key

/-- Keeps a secret under a key. -/
def write (service key value : String) : Storing Keyring Unit := do
  ask .build
  ask .set
  .change fun k => k.setService service ((k.ofService service).insert key value)

/-- Removes the secret of a key, if there is one. -/
def delete (service key : String) : Storing Keyring Unit := do
  ask .build
  ask .delete
  .change fun k => k.setService service ((k.ofService service).erase key)

/-! ## §2. The index. -/

/-- The key under which the keys are listed. -/
def indexKey : String := "__keys"

/-- How the list of keys is written. -/
def indexCodec : Json.Codec (List String) := Json.Codec.text.list

/-- The listed keys. -/
def readIndex (service : String) : Storing Keyring (List String) := do
  match ← read service indexKey with
  | none => pure []
  | some raw => Storing.ofExcept .unreadable (indexCodec.decode raw)

/-- Lists keys. -/
def writeIndex (service : String) (keys : List String) : Storing Keyring Unit :=
  write service indexKey (indexCodec.encode keys)

/-! ## §3. The operations of the store. -/

/-- Keeps a secret and lists its key. -/
def store (service key value : String) : Storing Keyring Unit := do
  write service key value
  let keys ← readIndex service
  if key ∉ keys then writeIndex service (keys ++ [key])

/-- Removes a secret and strikes its key from the list. -/
def forget (service key : String) : Storing Keyring Unit := do
  delete service key
  let keys ← readIndex service
  let kept := keys.filter (· ≠ key)
  if kept.length ≠ keys.length then writeIndex service kept

/-- Removes all listed secrets, then the list. -/
def forgetAll (service : String) : Storing Keyring Unit := do
  SecretStore.removeAll (forget service) (← readIndex service)
  delete service indexKey

end Keyring

/-- The store that keeps the secrets of a service in a keyring. -/
def SecretStore.keyring (service : String) : SecretStore Keyring where
  name := "keyring"
  get := Keyring.read service
  put := Keyring.store service
  remove := Keyring.forget service
  keys := Keyring.readIndex service
  clear := Keyring.forgetAll service

end TunnelControl
