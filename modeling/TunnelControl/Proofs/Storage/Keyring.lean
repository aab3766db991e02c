/-
  TunnelControl.Proofs.Storage.Keyring
  ────────────────────────────────────
  **WHAT A KEYRING HOLDS AFTER EACH ACTION.**

  A keyring may refuse any action, so an operation of the store can stop
  between any two of them.  Each operation is described by how the secrets
  and the list of keys lie when it is answered and how they lie when it was
  refused on the way; a keyring that refuses nothing answers always.

    • `Keyring.Outcome`, `Keyring.Leads`, `Leads.bind` — answered or refused,
    • `Keyring.Layout`, `Keyring.Laid`  — the secrets and the listed keys,
    • `Keyring.Pruned`                  — what a removal that stops leaves,
    • `store_leads`, `forget_leads`, `forgetAll_leads` — the operations,
    • `keyring_obliging`                — a working keyring is a faithful store.
-/
import TunnelControl.Proofs.Json.Lawful
import TunnelControl.Proofs.Storage.Memory
import TunnelControl.Storage.Keyring

namespace TunnelControl

namespace Keyring

variable {service key : String} {α β : Type}

/-! ## §1. Answered or refused. -/

/-- Nothing is ever refused. -/
def Working (k : Keyring) : Prop := ∀ n action, k.refuses n action = false

/-- What comes of a computation: an answer, or a failure, which only a refusal
can be the cause of. -/
inductive Outcome (done : α → Keyring → Prop) (failed : Keyring → Prop) (k : Keyring) :
    Except StorageError α × Keyring → Prop
  | done {a : α} {k' : Keyring} (plan : k'.refuses = k.refuses) (h : done a k') :
      Outcome done failed k (.ok a, k')
  | failed {e : StorageError} {k' : Keyring} (plan : k'.refuses = k.refuses)
      (refusing : ¬ k.Working) (h : failed k') : Outcome done failed k (.error e, k')

/-- Where the first condition holds, a computation is answered with `done`, or
it stops with `failed`. -/
def Leads (before : Keyring → Prop) (x : Storing Keyring α) (done : α → Keyring → Prop)
    (failed : Keyring → Prop) : Prop := ∀ k, before k → Outcome done failed k (x.on k)

theorem working_of_plan {k k' : Keyring} (plan : k'.refuses = k.refuses) :
    k'.Working ↔ k.Working := by
  unfold Working
  rw [plan]

theorem Leads.bind {before : Keyring → Prop} {x : Storing Keyring α} {f : α → Storing Keyring β}
    {middle : α → Keyring → Prop} {done : β → Keyring → Prop} {early failed : Keyring → Prop}
    (first : Leads before x middle early) (next : ∀ a, Leads (middle a) (f a) done failed)
    (stop : ∀ k, early k → failed k) : Leads before (x >>= f) done failed := by
  intro k h
  have outcome := first k h
  rw [Storing.on_bind]
  generalize x.on k = reached at outcome ⊢
  obtain ⟨e | a, k₁⟩ := reached
  · -- a refusal in the first part ends the whole
    cases outcome with
    | failed plan refusing h₁ => exact .failed plan refusing (stop k₁ h₁)
  · cases outcome with
    | done plan h₁ =>
        show Outcome done failed k ((f a).on k₁)
        have rest := next a k₁ h₁
        generalize (f a).on k₁ = reached' at rest ⊢
        obtain ⟨e | b, k₂⟩ := reached'
        · cases rest with
          | failed plan₂ refusing h₂ =>
              exact .failed (plan₂.trans plan) (mt (working_of_plan plan).mpr refusing) h₂
        · cases rest with
          | done plan₂ h₂ => exact .done (plan₂.trans plan) h₂

/-- A weaker end is led to as well. -/
theorem Leads.mono {before : Keyring → Prop} {x : Storing Keyring α}
    {done done' : α → Keyring → Prop} {failed failed' : Keyring → Prop}
    (h : Leads before x done failed) (ends : ∀ a k, done a k → done' a k)
    (stop : ∀ k, failed k → failed' k) : Leads before x done' failed' := by
  intro k hk
  have outcome := h k hk
  generalize x.on k = reached at outcome ⊢
  obtain ⟨e | a, k'⟩ := reached
  · cases outcome with
    | failed plan refusing h' => exact .failed plan refusing (stop k' h')
  · cases outcome with
    | done plan h' => exact .done plan (ends a k' h')

theorem Leads.map {before : Keyring → Prop} {x : Storing Keyring α} {failed : Keyring → Prop}
    (done : β → Keyring → Prop) (f : α → β) (h : Leads before x (fun a => done (f a)) failed) :
    Leads before (f <$> x) done failed := by
  intro k hk
  have outcome := h k hk
  rw [Storing.on_map]
  generalize x.on k = reached at outcome ⊢
  obtain ⟨e | a, k'⟩ := reached
  · cases outcome with
    | failed plan refusing h' => exact .failed plan refusing h'
  · cases outcome with
    | done plan h' => exact .done plan h'

/-- Whatever was refused, the keyring is left in one of the two ends. -/
theorem Leads.left {before : Keyring → Prop} {x : Storing Keyring α} {P : Keyring → Prop}
    (h : Leads before x (fun _ => P) P) {k : Keyring} (start : before k) : P (x.on k).2 := by
  have outcome := h k start
  generalize x.on k = reached at outcome ⊢
  cases outcome with
  | done plan h' => exact h'
  | failed plan refusing h' => exact h'

/-- **A keyring that refuses nothing gives an answer.** -/
theorem Leads.answered {before : Keyring → Prop} {x : Storing Keyring α}
    {done : α → Keyring → Prop} {failed : Keyring → Prop} (h : Leads before x done failed)
    {k : Keyring} (working : k.Working) (start : before k) :
    ∃ a k', x.on k = (.ok a, k') ∧ k'.Working ∧ done a k' := by
  have outcome := h k start
  generalize x.on k = reached at outcome ⊢
  obtain ⟨e | a, k'⟩ := reached
  · cases outcome with
    | failed plan refusing h' => exact absurd working refusing
  · cases outcome with
    | done plan h' => exact ⟨a, k', rfl, (working_of_plan plan).mpr working, h'⟩

/-! ## §2. The secrets and their list. -/

/-- The listed keys. -/
def index (secrets : Entries String) : Except Json.ReadError (List String) :=
  match secrets.get? indexKey with
  | none => .ok []
  | some raw => indexCodec.decode raw

/-- Secrets with a readable list of keys. -/
structure Layout (secrets : Entries String) (names : List String) (m : Texts) : Prop where
  listed : index secrets = .ok names
  texts : ∀ key, key ≠ indexKey → secrets.get? key = m key
  /-- The place of the list is no key of the store. -/
  apart : m indexKey = none
  named : ∀ key ∈ names, key ≠ indexKey

theorem layout_nil : Layout [] [] .none where
  listed := rfl
  texts := fun _ _ => rfl
  apart := rfl
  named := fun _ h => absurd h List.not_mem_nil

section Layout

variable {secrets : Entries String} {names : List String} {m : Texts}

theorem Layout.insert (h : Layout secrets names m) (usable : key ≠ indexKey) (value : String) :
    Layout (secrets.insert key value) names (m.assign key (some value)) where
  listed := by rw [index, Entries.get?_insert, if_neg usable]; exact h.listed
  texts := by
    intro other ne
    rw [Entries.get?_insert, h.texts other ne]
    rfl
  apart := by rw [Texts.assign_of_ne usable, h.apart]
  named := h.named

theorem Layout.erase (h : Layout secrets names m) (usable : key ≠ indexKey) :
    Layout (secrets.erase key) names (m.assign key none) where
  listed := by rw [index, Entries.get?_erase, if_neg usable]; exact h.listed
  texts := by
    intro other ne
    rw [Entries.get?_erase, h.texts other ne]
    rfl
  apart := by rw [Texts.assign_of_ne usable, h.apart]
  named := h.named

/-- The list is read back as it was written. -/
theorem Layout.list (h : Layout secrets names m) {names' : List String}
    (named : ∀ key ∈ names', key ≠ indexKey) :
    Layout (secrets.insert indexKey (indexCodec.encode names')) names' m where
  listed := by
    have lawful : indexCodec.Lawful := Json.Codec.list_lawful Json.Codec.text_lawful
    rw [index, Entries.get?_insert, if_pos rfl]
    exact lawful.decode_encode names'
  texts := by
    intro other ne
    rw [Entries.get?_insert, if_neg (Ne.symm ne)]
    exact h.texts other ne
  apart := h.apart
  named := named

/-- Without its list the secrets are still there. -/
theorem Layout.unlist (h : Layout secrets names m) : Layout (secrets.erase indexKey) [] m where
  listed := by rw [index, Entries.get?_erase, if_pos rfl]
  texts := by
    intro other ne
    rw [Entries.get?_erase, if_neg (Ne.symm ne)]
    exact h.texts other ne
  apart := h.apart
  named := fun _ hk => absurd hk List.not_mem_nil

/-- Nothing is left where no key has a secret and there is no list. -/
theorem Layout.eq_nil (h : Layout secrets names .none) (bare : secrets.get? indexKey = none) :
    secrets = [] := by
  apply Entries.eq_nil_of_texts
  funext other
  by_cases own : other = indexKey
  · subst own
    exact bare
  · exact h.texts other own

end Layout

/-- The layout of a service. -/
def Laid (service : String) (names : List String) (m : Texts) (k : Keyring) : Prop :=
  Layout (k.ofService service) names m

theorem laid_of_empty {k : Keyring} (empty : k.ofService service = []) :
    Laid service [] .none k := by
  unfold Laid
  rw [empty]
  exact layout_nil

/-! ## §3. Single actions. -/

theorem ofService_setService (secrets : Entries String) (k : Keyring) :
    (k.setService service secrets).ofService service = secrets := by
  unfold ofService setService
  rw [Entries.get?_insert, if_pos rfl]
  rfl

/-- An action that is asked for is granted or refused; the secrets stay. -/
theorem ask_leads (action : EntryAction) {P : Entries String → Prop} :
    Leads (fun k => P (k.ofService service)) (ask action) (fun _ k => P (k.ofService service))
      fun k => P (k.ofService service) := by
  intro k h
  unfold ask
  rw [Storing.on_bind, Storing.on_look]
  show Outcome _ _ k ((Storing.change _ >>= _).on k)
  rw [Storing.on_bind, Storing.on_change]
  cases refused : k.refuses k.asked action with
  | false => exact .done rfl h
  | true =>
      refine .failed rfl ?_ h
      intro working
      rw [working] at refused
      cases refused

/-- A change of the secrets of a service happens wholly, or it is refused. -/
theorem change_leads (action : EntryAction) (f : Entries String → Entries String)
    {P Q : Entries String → Prop} (changed : ∀ secrets, P secrets → Q (f secrets)) :
    Leads (fun k => P (k.ofService service))
      (do
        ask .build
        ask action
        .change fun k => k.setService service (f (k.ofService service)))
      (fun _ k => Q (k.ofService service)) fun k => P (k.ofService service) := by
  refine (ask_leads .build).bind (fun _ => ?_) (fun _ h => h)
  refine (ask_leads action).bind (fun _ => ?_) (fun _ h => h)
  intro k h
  refine .done rfl ?_
  rw [ofService_setService]
  exact changed _ h

section Actions

variable {names : List String} {m : Texts}

theorem read_leads (P : Entries String → Prop) (key : String) :
    Leads (fun k => P (k.ofService service)) (read service key)
      (fun text k => text = (k.ofService service).get? key ∧ P (k.ofService service))
      fun k => P (k.ofService service) := by
  refine (ask_leads .build).bind (fun _ => ?_) (fun _ h => h)
  refine (ask_leads .get).bind (fun _ => ?_) (fun _ h => h)
  intro k h
  exact .done rfl ⟨rfl, h⟩

theorem write_leads (usable : key ≠ indexKey) (value : String) :
    Leads (Laid service names m) (write service key value)
      (fun _ => Laid service names (m.assign key (some value))) (Laid service names m) :=
  change_leads .set (Entries.insert key value) (P := (Layout · names m))
    (Q := (Layout · names (m.assign key (some value)))) fun _ h => h.insert usable value

theorem delete_leads (usable : key ≠ indexKey) :
    Leads (Laid service names m) (delete service key)
      (fun _ => Laid service names (m.assign key none)) (Laid service names m) :=
  change_leads .delete (Entries.erase key) (P := (Layout · names m))
    (Q := (Layout · names (m.assign key none))) fun _ h => h.erase usable

theorem writeIndex_leads {names' : List String} (named : ∀ key ∈ names', key ≠ indexKey) :
    Leads (Laid service names m) (writeIndex service names')
      (fun _ => Laid service names' m) (Laid service names m) :=
  change_leads .set (Entries.insert indexKey (indexCodec.encode names')) (P := (Layout · names m))
    (Q := (Layout · names' m)) fun _ h => h.list named

theorem deleteIndex_leads :
    Leads (Laid service names m) (delete service indexKey)
      (fun _ k => Laid service [] m k ∧ (k.ofService service).get? indexKey = none)
      (Laid service names m) := by
  refine change_leads .delete (Entries.erase indexKey) (P := (Layout · names m))
    (Q := fun secrets => Layout secrets [] m ∧ secrets.get? indexKey = none) fun secrets h => ?_
  refine ⟨h.unlist, ?_⟩
  rw [Entries.get?_erase, if_pos rfl]

theorem readIndex_leads :
    Leads (Laid service names m) (readIndex service)
      (fun listed k => listed = names ∧ Laid service names m k) (Laid service names m) := by
  refine (read_leads (Layout · names m) indexKey).bind (fun text => ?_) (fun _ h => h)
  rintro k ⟨rfl, h⟩
  have listed := h.listed
  unfold index at listed
  cases text : (k.ofService service).get? indexKey with
  | none =>
      rw [text] at listed
      injection listed with listed
      exact .done rfl ⟨listed, h⟩
  | some raw =>
      rw [text] at listed
      simp only [listed]
      exact .done rfl ⟨rfl, h⟩

end Actions

/-! ## §4. The operations. -/

/-- What is left of secrets and their list by removals, the last of which may
have stopped halfway: a key is struck from the list only if its secret is gone. -/
structure Pruned (names : List String) (m : Texts) (names' : List String) (m' : Texts) : Prop where
  texts : ∀ key, m' key = m key ∨ m' key = none
  struck : ∀ key ∈ names, key ∈ names' ∨ m' key = none

theorem Pruned.refl (names : List String) (m : Texts) : Pruned names m names m where
  texts := fun _ => .inl rfl
  struck := fun _ h => .inl h

theorem Pruned.trans {names names' names'' : List String} {m m' m'' : Texts}
    (h : Pruned names m names' m') (h' : Pruned names' m' names'' m'') :
    Pruned names m names'' m'' where
  texts := by
    intro key
    rcases h'.texts key with same | gone
    · rw [same]
      exact h.texts key
    · exact .inr gone
  struck := by
    intro key hk
    rcases h.struck key hk with kept | gone
    · exact h'.struck key kept
    · rcases h'.texts key with same | gone'
      · exact .inr (same.trans gone)
      · exact .inr gone'

/-- Some of the secrets and of the list are left. -/
def LaidPruned (service : String) (names : List String) (m : Texts) (k : Keyring) : Prop :=
  ∃ names' m', Laid service names' m' k ∧ Pruned names m names' m'

theorem Laid.pruned {names : List String} {m : Texts} {k : Keyring}
    (h : Laid service names m k) : LaidPruned service names m k := ⟨names, m, h, .refl names m⟩

theorem pruned_assign (names : List String) (m : Texts) (key : String) :
    Pruned names m names (m.assign key none) where
  texts := by
    intro other
    by_cases same : key = other
    · subst same
      exact .inr (Texts.assign_self key none m)
    · exact .inl (Texts.assign_of_ne same none m)
  struck := fun _ h => .inl h

theorem pruned_filter (names : List String) (m : Texts) (key : String) :
    Pruned names m (names.filter (· ≠ key)) (m.assign key none) where
  texts := (pruned_assign names m key).texts
  struck := by
    intro other hk
    by_cases same : key = other
    · subst same
      exact .inr (Texts.assign_self key none m)
    · exact .inl (by simp [hk, Ne.symm same])

theorem pruned_without (names : List String) (m : Texts) (names' : List String) :
    Pruned names m names' (m.without names) where
  texts := by
    intro key
    by_cases hk : key ∈ names
    · exact .inr (if_pos hk)
    · exact .inl (if_neg hk)
  struck := fun key hk => .inr (if_pos hk)

section Operations

variable {names : List String} {m : Texts}

/-- The list with a key that has a secret now. -/
def listedWith (names : List String) (key : String) : List String :=
  if key ∈ names then names else names ++ [key]

/-- **Storing a secret** lists its key; if it stops, the secret may be there
and its key not listed. -/
theorem store_leads (usable : key ≠ indexKey) (value : String) :
    Leads (Laid service names m) (store service key value)
      (fun _ => Laid service (listedWith names key) (m.assign key (some value)))
      fun k => Laid service names m k ∨ Laid service names (m.assign key (some value)) k := by
  refine (write_leads usable value).bind (fun _ => ?_) (fun _ h => .inl h)
  -- from here on the secret is there, whether or not its key comes to be listed
  refine readIndex_leads.bind (fun listed => ?_) (fun _ h => .inr h)
  rintro k ⟨rfl, h⟩
  unfold listedWith
  by_cases known : key ∈ listed
  · simp only [known, not_true_eq_false, if_true, if_false]
    exact .done rfl h
  · simp only [known, not_false_eq_true, if_true, if_false]
    have named : ∀ other ∈ listed ++ [key], other ≠ indexKey := by
      intro other hk
      rcases List.mem_append.mp hk with hk | hk
      · exact h.named other hk
      · rw [List.mem_singleton.mp hk]
        exact usable
    exact (writeIndex_leads named).mono (fun _ _ h => h) (fun _ h => .inr h) k h

/-- **Removing a secret** strikes its key; if it stops, no listed secret has
lost its place in the list. -/
theorem forget_leads (usable : key ≠ indexKey) :
    Leads (Laid service names m) (forget service key)
      (fun _ => Laid service (names.filter (· ≠ key)) (m.assign key none))
      (LaidPruned service names m) := by
  have stopped (k : Keyring) (h : Laid service names (m.assign key none) k) :
      LaidPruned service names m k := ⟨_, _, h, pruned_assign names m key⟩
  -- the secret goes first: what stops later leaves its key in the list, and no secret
  refine (delete_leads usable).bind (fun _ => ?_) (fun _ h => h.pruned)
  refine readIndex_leads.bind (fun listed => ?_) stopped
  rintro k ⟨rfl, h⟩
  by_cases same : (listed.filter (· ≠ key)).length = listed.length
  · have all : listed.filter (· ≠ key) = listed := List.filter_sublist.eq_of_length same
    simp only [same, ne_eq, not_true_eq_false, if_false]
    rw [all]
    exact .done rfl h
  · simp only [same, ne_eq, not_false_eq_true, if_true]
    have named : ∀ other ∈ listed.filter (· ≠ key), other ≠ indexKey :=
      fun other hk => h.named other (List.mem_filter.mp hk).1
    exact (writeIndex_leads named).mono (fun _ _ h => h) stopped k h

/-- **Removing several secrets**, one after the other. -/
theorem removeAll_leads {keys : List String} (usable : ∀ key ∈ keys, key ≠ indexKey) :
    Leads (Laid service names m) (SecretStore.removeAll (forget service) keys)
      (fun _ => Laid service (names.filter (· ∉ keys)) (m.without keys))
      (LaidPruned service names m) := by
  induction keys generalizing names m with
  | nil =>
      intro k h
      refine .done rfl ?_
      have all : names.filter (· ∉ []) = names := List.filter_eq_self.mpr fun _ _ => by simp
      rw [all, m.without_nil]
      exact h
  | cons key keys ih =>
      -- the rest is removed from what the first removal left
      refine (forget_leads (usable key List.mem_cons_self)).bind (fun _ => ?_) (fun _ h => h)
      have rest : Leads (Laid service (names.filter (· ≠ key)) (m.assign key none)) _ _ _ :=
        ih fun other hk => usable other (List.mem_cons_of_mem _ hk)
      refine rest.mono (fun _ k h => ?_) ?_
      · have list : (names.filter (· ≠ key)).filter (· ∉ keys)
            = names.filter (· ∉ key :: keys) := by
          rw [List.filter_filter]
          congr 1
          funext other
          simp [Bool.and_comm]
        rw [← list, ← Texts.without_assign]
        exact h
      · rintro k ⟨names', m', h, pruned⟩
        exact ⟨names', m', h, (pruned_filter names m key).trans pruned⟩

/-- **Removing all listed secrets** leaves those that are not listed, and no
list. -/
theorem forgetAll_leads :
    Leads (Laid service names m) (forgetAll service)
      (fun _ k => Laid service [] (m.without names) k
        ∧ (k.ofService service).get? indexKey = none)
      (LaidPruned service names m) := by
  refine readIndex_leads.bind (fun listed => ?_) (fun _ h => h.pruned)
  rintro k ⟨rfl, h⟩
  -- what stops the last step leaves the list, from which all keys are struck
  refine Leads.bind (removeAll_leads h.named) (fun _ => ?_) (fun _ h => h) k h
  exact deleteIndex_leads.mono (fun _ _ h => h) fun k' h' => ⟨_, _, h', pruned_without _ m _⟩

end Operations

end Keyring

/-! ## §5. A keyring that refuses nothing. -/

/-- The secrets of a service in a working keyring, all of them listed. -/
def Upkeep.keyring (service : String) : Upkeep Keyring where
  usable := fun key => key ≠ Keyring.indexKey
  holds := fun k m => k.Working ∧ ∃ names, Keyring.Laid service names m k ∧ names.Nodup
    ∧ ∀ key, key ∈ names ↔ (m key).isSome = true
  bare := fun k => k.ofService service = []

namespace Keyring

/-- The list follows a secret that is stored. -/
theorem listedWith_nodup {names : List String} (nodup : names.Nodup) (key : String) :
    (listedWith names key).Nodup := by
  unfold listedWith
  by_cases known : key ∈ names
  · rw [if_pos known]
    exact nodup
  · rw [if_neg known, List.nodup_append]
    refine ⟨nodup, by simp, ?_⟩
    rintro other hk _ (hs : _ ∈ [key]) rfl
    rw [List.mem_singleton.mp hs] at hk
    exact known hk

theorem mem_listedWith {names : List String} {key other : String} :
    other ∈ listedWith names key ↔ other ∈ names ∨ other = key := by
  unfold listedWith
  by_cases known : key ∈ names
  · rw [if_pos known]
    constructor
    · exact .inl
    · rintro (hk | rfl)
      · exact hk
      · exact known
  · rw [if_neg known, List.mem_append, List.mem_singleton]

end Keyring

namespace SecretStore

open Keyring

variable {service : String}

/-- **A working keyring is a faithful store**, and refuses nothing. -/
theorem keyring_obliging : (keyring service).Obliging (.keyring service) where
  get := by
    rintro k m key ⟨working, names, laid, rest⟩ usable
    obtain ⟨text, k', read, working', rfl, laid'⟩ :=
      (read_leads (Layout · names m) key).answered working laid
    -- the place of the list apart, secrets and texts are the same
    refine ⟨k', ?_, working', names, laid', rest⟩
    rw [← laid'.texts key usable]
    exact read
  put := by
    rintro k m key value ⟨working, names, laid, nodup, all⟩ usable
    obtain ⟨_, k', stored, working', laid'⟩ := (store_leads usable value).answered working laid
    refine .inl ⟨k', stored, working', _, laid', listedWith_nodup nodup key, fun other => ?_⟩
    rw [mem_listedWith, all other]
    by_cases same : key = other
    · subst same
      simp [Texts.assign_self]
    · simp [Texts.assign_of_ne same, Ne.symm same]
  remove := by
    rintro k m key ⟨working, names, laid, nodup, all⟩ usable
    obtain ⟨_, k', removed, working', laid'⟩ := (forget_leads usable).answered working laid
    refine ⟨k', removed, working', _, laid', nodup.filter _, fun other => ?_⟩
    rw [List.mem_filter, all other]
    by_cases same : key = other
    · subst same
      simp [Texts.assign_self]
    · simp [Texts.assign_of_ne same, Ne.symm same]
  keys := by
    rintro k m ⟨working, names, laid, rest⟩
    obtain ⟨_, k', listed, working', rfl, laid'⟩ := readIndex_leads.answered working laid
    exact ⟨_, k', listed, ⟨working', _, laid', rest⟩, rest⟩
  clear := by
    rintro k m ⟨working, names, laid, nodup, all⟩
    obtain ⟨_, k', cleared, working', laid', bare⟩ := forgetAll_leads.answered working laid
    rw [Texts.without_all fun key some => (all key).mpr some] at laid'
    refine ⟨k', cleared, ⟨working', [], laid', List.nodup_nil, ?_⟩, laid'.eq_nil bare⟩
    exact fun key => ⟨fun hk => absurd hk List.not_mem_nil, fun some => by cases some⟩
  puts := by
    rintro k m key value ⟨working, names, laid, -⟩ usable
    obtain ⟨_, k', stored, -⟩ := (store_leads usable value).answered working laid
    show ((store service key value).on k).1 = _
    rw [stored]

end SecretStore

end TunnelControl
