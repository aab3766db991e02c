/-
  TunnelControl.Proofs.Storage.Keeping
  ────────────────────────────────────
  **STORES THAT KEEP TEXTS LIKE A FINITE MAP.**

  A store lays its texts out on a storage in its own way.  That the layout
  stands for a map from keys to texts is said by a relation; a store is
  faithful if each of its operations answers from the map and leaves a layout
  of the map that it should be then.  From the operations it follows for
  every history, once for all stores.

    • `Texts`, `StoreCall.after`, `textsAfter` — the map and its history,
    • `textsAfter_eq_some_iff`        — a key has the text that was put last,
    • `Upkeep`, `SecretStore.Keeps`   — layouts and faithful stores,
    • `Keeps.removeAll_on`            — removing one key after the other,
    • `SecretStore.Obliging`, `Obliging.call_on`, `Obliging.run_holds` —
                                        stores that never refuse.
-/
import Mathlib.Data.List.Induction
import TunnelControl.Storage.Calls

namespace TunnelControl

/-! ## §1. The map of a history. -/

/-- The text of each key that has one. -/
abbrev Texts := String → Option String

/-- No key has a text. -/
def Texts.none : Texts := fun _ => .none

/-- Gives a key another text, or none. -/
def Texts.assign (key : String) (text : Option String) (m : Texts) : Texts :=
  fun k => if key = k then text else m k

theorem Texts.assign_self (key : String) (text : Option String) (m : Texts) :
    m.assign key text key = text := if_pos rfl

theorem Texts.assign_of_ne {key other : String} (h : key ≠ other) (text : Option String)
    (m : Texts) : m.assign key text other = m other := if_neg h

/-- Takes away the texts of some keys. -/
def Texts.without (names : List String) (m : Texts) : Texts :=
  fun k => if k ∈ names then .none else m k

@[simp] theorem Texts.without_nil (m : Texts) : m.without [] = m := by
  funext k
  exact if_neg List.not_mem_nil

theorem Texts.without_assign (key : String) (names : List String) (m : Texts) :
    (m.assign key .none).without names = m.without (key :: names) := by
  funext k
  by_cases first : key = k
  · subst first
    simp [without, assign_self]
  · simp [without, assign_of_ne first, Ne.symm first]

theorem Texts.without_all {names : List String} {m : Texts}
    (all : ∀ key, (m key).isSome = true → key ∈ names) : m.without names = .none := by
  funext k
  by_cases hk : k ∈ names
  · exact if_pos hk
  · rw [without, if_neg hk]
    exact Option.not_isSome_iff_eq_none.mp fun some => hk (all k some)

namespace StoreCall

/-- The map after a call. -/
def after (m : Texts) : StoreCall → Texts
  | put key value => m.assign key (some value)
  | remove key => m.assign key .none
  | clear => .none
  | _ => m

/-- The call decides what text a key has. -/
def Decides (key : String) : StoreCall → Prop
  | put k _ => k = key
  | remove k => k = key
  | clear => True
  | _ => False

/-- The keys that a call is about satisfy a condition. -/
def About (usable : String → Prop) : StoreCall → Prop
  | get key => usable key
  | put key _ => usable key
  | remove key => usable key
  | _ => True

/-- The answer to a call is that of a map. -/
def Answered (m : Texts) (r : Except StorageError StoreReply) : StoreCall → Prop
  | get key => r = .ok (.text (m key))
  | keys => ∃ names, r = .ok (.keys names) ∧ names.Nodup
      ∧ ∀ key, key ∈ names ↔ (m key).isSome = true
  | _ => r = .ok .done

theorem after_of_not_decides {key : String} {c : StoreCall} (h : ¬ c.Decides key) (m : Texts) :
    c.after m key = m key := by
  cases c with
  | put k value => exact Texts.assign_of_ne h _ m
  | remove k => exact Texts.assign_of_ne h _ m
  | clear => exact absurd trivial h
  | get k => rfl
  | keys => rfl
  | reopen => rfl

theorem after_eq_some_of_decides {key value : String} {c : StoreCall} (h : c.Decides key)
    {m : Texts} : c.after m key = some value ↔ c = .put key value := by
  cases c with
  | put k v =>
      have same : k = key := h
      subst same
      simp [after, Texts.assign_self]
  | remove k =>
      have same : k = key := h
      subst same
      simp [after, Texts.assign_self]
  | clear => simp [after, Texts.none]
  | get k => exact absurd h id
  | keys => exact absurd h id
  | reopen => exact absurd h id

end StoreCall

/-- The map after a history that began with nothing. -/
def textsAfter (calls : List StoreCall) : Texts := calls.foldl (fun m c => c.after m) .none

@[simp] theorem textsAfter_concat (calls : List StoreCall) (c : StoreCall) :
    textsAfter (calls ++ [c]) = c.after (textsAfter calls) := by
  simp only [textsAfter, List.foldl_append, List.foldl_cons, List.foldl_nil]

/-- What does not decide about a key leaves its text. -/
theorem foldl_after_of_not_decides {key : String} {calls : List StoreCall}
    (h : ∀ c ∈ calls, ¬ c.Decides key) (m : Texts) :
    calls.foldl (fun m c => c.after m) m key = m key := by
  induction calls generalizing m with
  | nil => rfl
  | cons c calls ih =>
      rw [List.foldl_cons, ih fun d hd => h d (List.mem_cons_of_mem _ hd)]
      exact StoreCall.after_of_not_decides (h c List.mem_cons_self) m

/-- **A key has the text that was put last**, if it was not removed or cleared
away since. -/
theorem textsAfter_eq_some_iff {calls : List StoreCall} {key value : String} :
    textsAfter calls key = some value
      ↔ ∃ before after, calls = before ++ .put key value :: after
        ∧ ∀ c ∈ after, ¬ c.Decides key := by
  constructor
  · intro found
    -- from the end of the history: the last call decides, or it does not matter
    induction calls using List.reverseRecOn with
    | nil => cases found
    | append_singleton calls c ih =>
        rw [textsAfter_concat] at found
        by_cases decides : c.Decides key
        · obtain rfl := (StoreCall.after_eq_some_of_decides decides).mp found
          exact ⟨calls, [], rfl, fun d hd => absurd hd List.not_mem_nil⟩
        · rw [StoreCall.after_of_not_decides decides] at found
          obtain ⟨before, after, rfl, others⟩ := ih found
          refine ⟨before, after ++ [c], by rw [List.append_assoc, List.cons_append], ?_⟩
          intro d hd
          rcases List.mem_append.mp hd with hd | hd
          · exact others d hd
          · rw [List.mem_singleton.mp hd]
            exact decides
  · rintro ⟨before, after, rfl, others⟩
    rw [textsAfter, List.foldl_append, List.foldl_cons, foldl_after_of_not_decides others]
    exact Texts.assign_self key (some value) _

/-! ## §2. Faithful stores. -/

/-- How texts are laid out on a storage. -/
structure Upkeep (σ : Type) where
  /-- The keys that the store is used with. -/
  usable : String → Prop
  /-- A storage is in order and stands for a map. -/
  holds : σ → Texts → Prop
  /-- Nothing of the store is left on a storage. -/
  bare : σ → Prop

namespace SecretStore

variable {σ : Type}

/-- **A faithful store.**  Each operation answers from the map and leaves a
layout of the map that it should be then.  Putting a text may be refused, and
changes nothing in that case. -/
structure Keeps (backend : SecretStore σ) (u : Upkeep σ) : Prop where
  get : ∀ {s m key}, u.holds s m → u.usable key →
    ∃ s', (backend.get key).on s = (.ok (m key), s') ∧ u.holds s' m
  put : ∀ {s m key} (value : String), u.holds s m → u.usable key →
    (∃ s', (backend.put key value).on s = (.ok (), s') ∧ u.holds s' (m.assign key (some value)))
      ∨ ∃ e s', (backend.put key value).on s = (.error e, s') ∧ u.holds s' m
  remove : ∀ {s m key}, u.holds s m → u.usable key →
    ∃ s', (backend.remove key).on s = (.ok (), s') ∧ u.holds s' (m.assign key none)
  keys : ∀ {s m}, u.holds s m →
    ∃ names s', backend.keys.on s = (.ok names, s') ∧ u.holds s' m ∧ names.Nodup
      ∧ ∀ key, key ∈ names ↔ (m key).isSome = true
  clear : ∀ {s m}, u.holds s m →
    ∃ s', backend.clear.on s = (.ok (), s') ∧ u.holds s' .none ∧ u.bare s'

theorem Keeps.put_ok {backend : SecretStore σ} {u : Upkeep σ} (h : backend.Keeps u) {s s' : σ}
    {m : Texts} {key value : String} (holds : u.holds s m) (usable : u.usable key)
    (put : (backend.put key value).on s = (.ok (), s')) :
    u.holds s' (m.assign key (some value)) := by
  rcases h.put value holds usable with ⟨_, same, holds'⟩ | ⟨_, _, same, -⟩
  · rw [put] at same
    injection same with _ same
    exact same ▸ holds'
  · rw [put] at same
    cases same

theorem Keeps.put_error {backend : SecretStore σ} {u : Upkeep σ} (h : backend.Keeps u) {s s' : σ}
    {m : Texts} {key value : String} {e : StorageError} (holds : u.holds s m)
    (usable : u.usable key) (put : (backend.put key value).on s = (.error e, s')) :
    u.holds s' m := by
  rcases h.put value holds usable with ⟨_, same, -⟩ | ⟨_, _, same, holds'⟩
  · rw [put] at same
    cases same
  · rw [put] at same
    injection same with _ same
    exact same ▸ holds'

/-- A faithful store that never refuses to put a text. -/
structure Obliging (backend : SecretStore σ) (u : Upkeep σ) : Prop extends Keeps backend u where
  puts : ∀ {s m key} (value : String), u.holds s m → u.usable key →
    ((backend.put key value).on s).1 = .ok ()

theorem run_concat (backend : SecretStore σ) (calls : List StoreCall) (c : StoreCall) (s : σ) :
    backend.run (calls ++ [c]) s = ((backend.call c).on (backend.run calls s)).2 := by
  simp only [run, List.foldl_append, List.foldl_cons, List.foldl_nil]

/-- A call to put a text is answered as the store does it. -/
theorem call_put_eq_ok_iff {backend : SecretStore σ} {key value : String} {s : σ} :
    ((backend.call (.put key value)).on s).1 = .ok .done
      ↔ ((backend.put key value).on s).1 = .ok () := by
  rw [call, Storing.on_map]
  cases ((backend.put key value).on s).1 with
  | ok a => exact ⟨fun _ => rfl, fun _ => rfl⟩
  | error e =>
      constructor
      · intro h
        cases h
      · intro h
        cases h

/-- **Removing keys one after the other leaves the texts of the others.** -/
theorem removeAll_on {holds : σ → Texts → Prop} {remove : String → Storing σ Unit}
    {names : List String}
    (removes : ∀ {s m}, ∀ key ∈ names, holds s m →
      ∃ s', (remove key).on s = (.ok (), s') ∧ holds s' (m.assign key none))
    {s : σ} {m : Texts} (h : holds s m) :
    ∃ s', (removeAll remove names).on s = (.ok (), s') ∧ holds s' (m.without names) := by
  induction names generalizing s m with
  | nil => exact ⟨s, rfl, m.without_nil ▸ h⟩
  | cons name names ih =>
      obtain ⟨s₁, removed, h₁⟩ := removes name List.mem_cons_self h
      obtain ⟨s₂, rest, h₂⟩ := ih (fun key hk => removes key (List.mem_cons_of_mem _ hk)) h₁
      refine ⟨s₂, ?_, ?_⟩
      · rw [removeAll, Storing.on_bind, removed]
        exact rest
      · rw [← Texts.without_assign]
        exact h₂

/-- **A store that has no shorter way is cleared key by key.** -/
theorem clearEach_on (holds : σ → Texts → Prop) (keys : Storing σ (List String))
    (remove : String → Storing σ Unit) {s s' : σ} {m : Texts} {names : List String}
    (listed : keys.on s = (.ok names, s')) (h : holds s' m)
    (all : ∀ key, (m key).isSome = true → key ∈ names)
    (removes : ∀ {s m}, ∀ key ∈ names, holds s m →
      ∃ s', (remove key).on s = (.ok (), s') ∧ holds s' (m.assign key none)) :
    ∃ s'', (clearEach keys remove).on s = (.ok (), s'') ∧ holds s'' .none := by
  obtain ⟨s'', removed, h'⟩ := removeAll_on removes h
  rw [Texts.without_all all] at h'
  refine ⟨s'', ?_, h'⟩
  rw [clearEach, Storing.on_bind, listed]
  exact removed

namespace Obliging

variable {backend : SecretStore σ} {u : Upkeep σ}

/-- **Every call is answered from the map**, and leaves a layout of the map
after it. -/
theorem call_on (h : backend.Obliging u) {s : σ} {m : Texts} (holds : u.holds s m)
    {c : StoreCall} (about : c.About u.usable) :
    c.Answered m ((backend.call c).on s).1 ∧ u.holds ((backend.call c).on s).2 (c.after m) := by
  cases c with
  | get key =>
      obtain ⟨s', e, h'⟩ := h.get holds about
      rw [call, Storing.on_map, e]
      exact ⟨rfl, h'⟩
  | put key value =>
      rcases h.put value holds about with ⟨s', e, h'⟩ | ⟨error, s', e, -⟩
      · rw [call, Storing.on_map, e]
        exact ⟨rfl, h'⟩
      · have accepted := h.puts value holds about
        rw [e] at accepted
        cases accepted
  | remove key =>
      obtain ⟨s', e, h'⟩ := h.remove holds about
      rw [call, Storing.on_map, e]
      exact ⟨rfl, h'⟩
  | keys =>
      obtain ⟨names, s', e, h', nodup, all⟩ := h.keys holds
      rw [call, Storing.on_map, e]
      exact ⟨⟨names, rfl, nodup, all⟩, h'⟩
  | clear =>
      obtain ⟨s', e, h', -⟩ := h.clear holds
      rw [call, Storing.on_map, e]
      exact ⟨rfl, h'⟩
  | reopen => exact ⟨rfl, holds⟩

/-- **After every history the storage is a layout of its map.** -/
theorem run_holds (h : backend.Obliging u) {s : σ} (start : u.holds s .none)
    {calls : List StoreCall} (about : ∀ c ∈ calls, c.About u.usable) :
    u.holds (backend.run calls s) (textsAfter calls) := by
  suffices ∀ m s, u.holds s m →
      u.holds (backend.run calls s) (calls.foldl (fun m c => c.after m) m) from this _ s start
  intro m s holds
  induction calls generalizing m s with
  | nil => exact holds
  | cons c calls ih =>
      exact ih (fun d hd => about d (List.mem_cons_of_mem _ hd)) _ _
        (h.call_on holds (about c List.mem_cons_self)).2

end Obliging

end SecretStore

end TunnelControl
