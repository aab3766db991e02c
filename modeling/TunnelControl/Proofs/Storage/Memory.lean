/-
  TunnelControl.Proofs.Storage.Memory
  ───────────────────────────────────
  **TEXTS IN MEMORY ARE KEPT FAITHFULLY.**

  In memory the storage is the map itself.  The store that can refuse is
  faithful as long as it only refuses to put texts.

    • `Entries.texts`, `texts_insert`, `texts_erase` — the map of entries,
    • `memory_obliging`  — the store in memory,
    • `flaky_keeps`      — the store that refuses to put texts.
-/
import TunnelControl.Proofs.Entries.Order
import TunnelControl.Proofs.Storage.Keeping

namespace TunnelControl

namespace Entries

/-- The map that entries stand for. -/
def texts (m : Entries String) : Texts := fun key => get? key m

theorem texts_insert (key value : String) (m : Entries String) :
    texts (insert key value m) = m.texts.assign key (some value) := by
  funext k
  exact get?_insert key k value m

theorem texts_erase (key : String) (m : Entries String) :
    texts (erase key m) = m.texts.assign key none := by
  funext k
  exact get?_erase key k m

theorem mem_keys_iff_texts {key : String} {m : Entries String} :
    key ∈ m.keys ↔ (m.texts key).isSome = true := mem_keys_iff

/-- Where no key has a text, no entry is left. -/
theorem eq_nil_of_texts {m : Entries String} (h : m.texts = .none) : m = [] := by
  cases m with
  | nil => rfl
  | cons e m =>
      have first : get? e.1 (e :: m) = none := congrFun h e.1
      simp [get?] at first

/-- Entries in order stand for a map. -/
structure Hold (m : Entries String) (texts : Texts) : Prop where
  ordered : m.Ordered
  same : m.texts = texts

theorem Hold.insert {m : Entries String} {texts : Texts} (h : m.Hold texts) (key value : String) :
    (insert key value m).Hold (texts.assign key (some value)) :=
  ⟨ordered_insert h.ordered key value, by rw [texts_insert, h.same]⟩

theorem Hold.erase {m : Entries String} {texts : Texts} (h : m.Hold texts) (key : String) :
    (erase key m).Hold (texts.assign key none) :=
  ⟨ordered_erase h.ordered key, by rw [texts_erase, h.same]⟩

theorem Hold.mem_keys_iff {m : Entries String} {texts : Texts} (h : m.Hold texts) (key : String) :
    key ∈ m.keys ↔ (texts key).isSome = true := by
  rw [← h.same]
  exact mem_keys_iff_texts

end Entries

/-! ## §1. In memory. -/

/-- Entries in memory. -/
def Upkeep.memory : Upkeep (Entries String) where
  usable := fun _ => True
  holds := Entries.Hold
  bare := fun m => m = []

namespace SecretStore

theorem memory_obliging : memory.Obliging .memory where
  get := by
    intro s m key h _
    exact ⟨s, by rw [← h.same]; rfl, h⟩
  put := by
    intro s m key value h _
    exact .inl ⟨_, rfl, h.insert key value⟩
  remove := by
    intro s m key h _
    exact ⟨_, rfl, h.erase key⟩
  keys := by
    intro s m h
    exact ⟨s.keys, s, rfl, h, Entries.nodup_keys h.ordered, h.mem_keys_iff⟩
  clear := by
    intro s m h
    obtain ⟨s', cleared, h'⟩ := clearEach_on Entries.Hold (.look Entries.keys)
      (fun key => .change (Entries.erase key)) rfl h
      (fun key some => (h.mem_keys_iff key).mpr some) (fun key _ h => ⟨_, rfl, h.erase key⟩)
    exact ⟨s', cleared, h', Entries.eq_nil_of_texts h'.same⟩
  puts := fun _ _ _ => rfl

end SecretStore

/-! ## §2. In memory, with refusals. -/

/-- Nothing is refused but to put a text. -/
def FlakyMemory.RefusesPutsOnly (f : FlakyMemory) : Prop :=
  ∀ n action, f.refuses n action = true → action = .set

/-- Entries in memory, with puts that may be refused. -/
def Upkeep.flaky : Upkeep FlakyMemory where
  usable := fun _ => True
  holds := fun f m => f.RefusesPutsOnly ∧ f.entries.Hold m
  bare := fun f => f.entries = []

namespace SecretStore

/-- What is not refused is done after one more request. -/
theorem ask_on {action : StoreAction} {f : FlakyMemory}
    (accepted : f.refuses f.asked action = false) :
    (FlakyMemory.ask action).on f = (.ok (), { f with asked := f.asked + 1 }) := by
  simp [FlakyMemory.ask, Storing.on_bind, accepted]

/-- What is refused has no effect. -/
theorem ask_on_refused {action : StoreAction} {f : FlakyMemory}
    (refused : f.refuses f.asked action = true) :
    (FlakyMemory.ask action).on f
      = (.error (.backend "flaky" (action.name ++ " refused")), { f with asked := f.asked + 1 }) := by
  simp [FlakyMemory.ask, Storing.on_bind, refused]

theorem accepted_of_ne_set {action : StoreAction} (other : action ≠ .set) {f : FlakyMemory}
    (puts : f.RefusesPutsOnly) : f.refuses f.asked action = false := by
  cases refused : f.refuses f.asked action with
  | false => rfl
  | true => exact absurd (puts _ _ refused) other

theorem flakyRemove_on {f : FlakyMemory} (puts : f.RefusesPutsOnly) (key : String) :
    (flakyRemove key).on f
      = (.ok (), { f with asked := f.asked + 1, entries := f.entries.erase key }) := by
  rw [flakyRemove, Storing.on_bind, ask_on (accepted_of_ne_set (by decide) puts)]
  rfl

theorem flakyKeys_on {f : FlakyMemory} (puts : f.RefusesPutsOnly) :
    flakyKeys.on f = (.ok f.entries.keys, { f with asked := f.asked + 1 }) := by
  rw [flakyKeys, Storing.on_bind, ask_on (accepted_of_ne_set (by decide) puts)]
  rfl

/-- **A store that refuses puts alone is faithful.** -/
theorem flaky_keeps : flaky.Keeps .flaky where
  get := by
    rintro f m key ⟨puts, h⟩ _
    refine ⟨{ f with asked := f.asked + 1 }, ?_, puts, h⟩
    show (FlakyMemory.ask .get >>= fun _ => _).on f = _
    rw [Storing.on_bind, ask_on (accepted_of_ne_set (by decide) puts), ← h.same]
    rfl
  put := by
    rintro f m key value ⟨puts, h⟩ _
    cases refused : f.refuses f.asked .set with
    | false =>
        refine .inl ⟨{ f with asked := f.asked + 1, entries := f.entries.insert key value }, ?_,
          puts, h.insert key value⟩
        show (FlakyMemory.ask .set >>= fun _ => _).on f = _
        rw [Storing.on_bind, ask_on refused]
        rfl
    | true =>
        refine .inr ⟨.backend "flaky" (StoreAction.set.name ++ " refused"),
          { f with asked := f.asked + 1 }, ?_, puts, h⟩
        show (FlakyMemory.ask .set >>= fun _ => _).on f = _
        rw [Storing.on_bind, ask_on_refused refused]
  remove := by
    rintro f m key ⟨puts, h⟩ _
    exact ⟨_, flakyRemove_on puts key, puts, h.erase key⟩
  keys := by
    rintro f m ⟨puts, h⟩
    exact ⟨_, _, flakyKeys_on puts, ⟨puts, h⟩, Entries.nodup_keys h.ordered, h.mem_keys_iff⟩
  clear := by
    rintro f m ⟨puts, h⟩
    obtain ⟨f', cleared, h'⟩ := clearEach_on Upkeep.flaky.holds flakyKeys flakyRemove
      (flakyKeys_on puts) ⟨puts, h⟩ (fun key some => (h.mem_keys_iff key).mpr some)
      (fun key _ h => ⟨_, flakyRemove_on h.1 key, h.1, h.2.erase key⟩)
    exact ⟨f', cleared, h', Entries.eq_nil_of_texts h'.2.same⟩

end SecretStore

end TunnelControl
