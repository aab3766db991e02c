/-
  TunnelControl.Storage.SecretStore
  ─────────────────────────────────
  **STORES OF TEXTS BY KEY.**

  A secret store keeps texts by key on some storage.  The simplest one keeps
  them in memory; another one does so too but can refuse.

    • `SecretStore`, `SecretStore.clearEach`, `SecretStore.within`,
    • `SecretStore.memory`,
    • `FlakyMemory`, `SecretStore.flaky`.
-/
import TunnelControl.Entries
import TunnelControl.Storage.Storing

namespace TunnelControl

/-- A way to keep texts by key on a storage. -/
structure SecretStore (σ : Type) where
  name : String
  get : String → Storing σ (Option String)
  put : String → String → Storing σ Unit
  /-- Removes a key; one that is not there is no failure. -/
  remove : String → Storing σ Unit
  keys : Storing σ (List String)
  clear : Storing σ Unit

namespace SecretStore

variable {σ τ : Type}

/-- Removes one key after the other. -/
def removeAll (remove : String → Storing σ Unit) : List String → Storing σ Unit
  | [] => pure ()
  | key :: rest => do
      remove key
      removeAll remove rest

/-- Clears a store that has no shorter way. -/
def clearEach (keys : Storing σ (List String)) (remove : String → Storing σ Unit) :
    Storing σ Unit := do
  removeAll remove (← keys)

/-- The same store on a part of a larger storage. -/
def within (part : τ → σ) (replace : σ → τ → τ) (s : SecretStore σ) : SecretStore τ where
  name := s.name
  get := fun key => (s.get key).within part replace
  put := fun key value => (s.put key value).within part replace
  remove := fun key => (s.remove key).within part replace
  keys := s.keys.within part replace
  clear := s.clear.within part replace

/-! ## §1. In memory. -/

/-- The store that keeps texts in memory. -/
def memory : SecretStore (Entries String) where
  name := "memory"
  get := fun key => .look (Entries.get? key)
  put := fun key value => .change (Entries.insert key value)
  remove := fun key => .change (Entries.erase key)
  keys := .look Entries.keys
  clear := clearEach (.look Entries.keys) (fun key => .change (Entries.erase key))

end SecretStore

/-! ## §2. In memory, with refusals. -/

/-- What a store is asked to do. -/
inductive StoreAction where
  | get
  | set
  | delete
  | keys
deriving DecidableEq

/-- The name of an action. -/
def StoreAction.name : StoreAction → String
  | get => "get"
  | set => "set"
  | delete => "delete"
  | keys => "keys"

/-- Texts in memory with a plan of refusals. -/
structure FlakyMemory where
  entries : Entries String := []
  asked : Nat := 0
  /-- Whether an action is refused, given how many came before it. -/
  refuses : Nat → StoreAction → Bool := fun _ _ => false

/-- Asks for an action; a refused one has no effect. -/
def FlakyMemory.ask (action : StoreAction) : Storing FlakyMemory Unit := do
  let refused ← .look fun m => m.refuses m.asked action
  .change fun m => { m with asked := m.asked + 1 }
  if refused then throw (.backend "flaky" (action.name ++ " refused"))

namespace SecretStore

/-- The keys of texts in memory, unless refused. -/
def flakyKeys : Storing FlakyMemory (List String) := do
  FlakyMemory.ask .keys
  .look fun m => m.entries.keys

/-- Removes a text in memory, unless refused. -/
def flakyRemove (key : String) : Storing FlakyMemory Unit := do
  FlakyMemory.ask .delete
  .change fun m => { m with entries := m.entries.erase key }

/-- The store that keeps texts in memory and refuses according to plan. -/
def flaky : SecretStore FlakyMemory where
  name := "flaky"
  get := fun key => do
    FlakyMemory.ask .get
    .look fun m => m.entries.get? key
  put := fun key value => do
    FlakyMemory.ask .set
    .change fun m => { m with entries := m.entries.insert key value }
  remove := flakyRemove
  keys := flakyKeys
  clear := clearEach flakyKeys flakyRemove

end SecretStore

end TunnelControl
