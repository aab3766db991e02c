/-
  TunnelControl.Proofs.Storage.Sharing
  ────────────────────────────────────
  **WHICH UPDATE OF SEVERAL CLIENTS IS STORED.**

  The memory is as the client left it that edited last, and the record as the
  client left it that stored last.  These need not be the same client: one
  that edits first can store last, and its older settings then replace those
  with both edits.

    • `turn_turn`                      — undisturbed turns are an update,
    • `Deed`, `turn_cases`             — what a turn does to the store,
    • `Traced`, `Traced.turn`, `Traced.run` — memory and record by the deeds,
    • `record_follows_last_store`      — what is in the record in the end,
    • `interleaved_update_is_lost`     — two clients, one edit.
-/
import TunnelControl.Proofs.Storage.SettingsHistory
import TunnelControl.Storage.Sharing

namespace TunnelControl.SharedStore

open SettingsStore

variable {σ ι : Type} [DecidableEq ι] {backend : SecretStore σ}

/-! ## §1. Turns. -/

/-- What a turn does to the store. -/
inductive Deed where
  | edited (settings : Settings)
  | stored (settings : Settings)

/-- The deed of a client whose turn it is, if it does anything. -/
def deed (backend : SecretStore σ) (i : ι) (s : SharedStore σ ι) : Option Deed :=
  match s.stage i with
  | .waiting change =>
      match change s.store.current with
      | .ok x => some (.edited x)
      | .error _ => none
  | .edited x =>
      match ((backend.put key x.json).on s.store.storage).1 with
      | .ok _ => some (.stored x)
      | .error _ => none
  | .answered _ => none

/-- The deeds of clients that take turns. -/
def deeds (backend : SecretStore σ) : List ι → SharedStore σ ι → List Deed
  | [], _ => []
  | i :: turns, s => (deed backend i s).toList ++ deeds backend turns (turn backend i s)

/-- **All that a turn can do.** -/
inductive Turned (backend : SecretStore σ) (i : ι) (s : SharedStore σ ι) :
    Option Deed → SharedStore σ ι → Prop
  | edits {change : Settings → Except Rejected Settings} {x : Settings}
      (before : s.stage i = .waiting change) (accepted : change s.store.current = .ok x) :
      Turned backend i s (some (.edited x))
        (s.proceed i (.edited x) { s.store with current := x })
  | rejects {change : Settings → Except Rejected Settings} {e : Rejected}
      (before : s.stage i = .waiting change) (rejected : change s.store.current = .error e) :
      Turned backend i s none (s.proceed i (.answered (.error (.rejected e))) s.store)
  | stores {x : Settings} {storage : σ} (before : s.stage i = .edited x)
      (put : (backend.put key x.json).on s.store.storage = (.ok (), storage)) :
      Turned backend i s (some (.stored x))
        (s.proceed i (.answered (.ok x)) { s.store with storage := storage })
  | refused {x : Settings} {e : StorageError} {storage : σ} (before : s.stage i = .edited x)
      (put : (backend.put key x.json).on s.store.storage = (.error e, storage)) :
      Turned backend i s none
        (s.proceed i (.answered (.error e)) { s.store with storage := storage })
  | rests {result : Except StorageError Settings} (before : s.stage i = .answered result) :
      Turned backend i s none s

theorem turn_cases (backend : SecretStore σ) (i : ι) (s : SharedStore σ ι) :
    Turned backend i s (deed backend i s) (turn backend i s) := by
  unfold deed turn
  cases before : s.stage i with
  | waiting change =>
      cases edited : change s.store.current with
      | ok x =>
          simp only [edited, edit_on edited]
          exact .edits before edited
      | error e =>
          simp only [edited, edit_on_rejected edited]
          exact .rejects before edited
  | edited x =>
      simp only [persist_on]
      rcases put : (backend.put key x.json).on s.store.storage with ⟨e | _, storage⟩
      · exact .refused before put
      · exact .stores before put
  | answered result => exact .rests before

theorem stage_proceed (i : ι) (stage : UpdateStage) (store : SettingsStore σ)
    (s : SharedStore σ ι) : (s.proceed i stage store).stage i = stage := if_pos rfl

theorem store_proceed (i : ι) (stage : UpdateStage) (store : SettingsStore σ)
    (s : SharedStore σ ι) : (s.proceed i stage store).store = store := rfl

theorem stage_proceed_of_ne {i j : ι} (other : j ≠ i) (stage : UpdateStage)
    (store : SettingsStore σ) (s : SharedStore σ ι) :
    (s.proceed i stage store).stage j = s.stage j := if_neg other

theorem proceed_proceed (i : ι) (stage stage' : UpdateStage) (store store' : SettingsStore σ)
    (s : SharedStore σ ι) :
    (s.proceed i stage store).proceed i stage' store' = s.proceed i stage' store' := by
  show SharedStore.mk store' _ = SharedStore.mk store' _
  congr 1
  funext j
  by_cases same : j = i
  · exact (if_pos same).trans (if_pos same).symm
  · exact (if_neg same).trans ((if_neg same).trans (if_neg same).symm)

/-- **Two turns of a client, one after the other, are an update.** -/
theorem turn_turn {change : Settings → Except Rejected Settings} {i : ι} {s : SharedStore σ ι}
    (before : s.stage i = .waiting change) :
    turn backend i (turn backend i s)
      = s.proceed i (.answered ((update backend change).on s.store).1)
        ((update backend change).on s.store).2 := by
  cases edited : change s.store.current with
  | error e =>
      have first : turn backend i s = s.proceed i (.answered (.error (.rejected e))) s.store := by
        simp only [turn, before, edit_on_rejected edited]
      rw [first, update_on_rejected edited]
      simp only [turn, stage_proceed]
  | ok x =>
      have first : turn backend i s
          = s.proceed i (.edited x) { s.store with current := x } := by
        simp only [turn, before, edit_on edited]
      rw [first, update_on edited, Storing.on_map]
      simp only [turn, stage_proceed, store_proceed]
      rcases (persist backend x).on { s.store with current := x } with ⟨e | _, store⟩
      · exact proceed_proceed i _ _ _ _ s
      · exact proceed_proceed i _ _ _ _ s

/-! ## §2. Memory and record. -/

/-- What was edited last. -/
def lastEdited (ds : List Deed) : Option Settings :=
  ds.reverse.findSome? fun
    | .edited x => some x
    | .stored _ => none

/-- What was stored last. -/
def lastStored (ds : List Deed) : Option Settings :=
  ds.reverse.findSome? fun
    | .edited _ => none
    | .stored x => some x

theorem lastEdited_edited (ds : List Deed) (x : Settings) :
    lastEdited (ds ++ [.edited x]) = some x := by
  simp [lastEdited]

theorem lastEdited_stored (ds : List Deed) (x : Settings) :
    lastEdited (ds ++ [.stored x]) = lastEdited ds := by
  simp [lastEdited]

theorem lastStored_stored (ds : List Deed) (x : Settings) :
    lastStored (ds ++ [.stored x]) = some x := by
  simp [lastStored]

theorem lastStored_edited (ds : List Deed) (x : Settings) :
    lastStored (ds ++ [.edited x]) = lastStored ds := by
  simp [lastStored]

theorem exists_lastEdited {ds : List Deed} {x : Settings} (h : .edited x ∈ ds) :
    ∃ y, lastEdited ds = some y := by
  rw [← Option.isSome_iff_exists, lastEdited, List.findSome?_isSome_iff]
  exact ⟨.edited x, List.mem_reverse.mpr h, rfl⟩

theorem exists_lastStored {ds : List Deed} {x : Settings} (h : .stored x ∈ ds) :
    ∃ y, lastStored ds = some y := by
  rw [← Option.isSome_iff_exists, lastStored, List.findSome?_isSome_iff]
  exact ⟨.stored x, List.mem_reverse.mpr h, rfl⟩

/-- What a client has done at a stage is among the deeds. -/
def Accounted (ds : List Deed) : UpdateStage → Prop
  | .edited x => .edited x ∈ ds
  | .answered (.ok x) => .edited x ∈ ds ∧ .stored x ∈ ds
  | _ => True

theorem Accounted.mono {ds ds' : List Deed} {stage : UpdateStage} (h : Accounted ds stage)
    (more : ∀ d ∈ ds, d ∈ ds') : Accounted ds' stage := by
  cases stage with
  | waiting change => trivial
  | edited x => exact more _ h
  | answered result =>
      cases result with
      | error e => trivial
      | ok x => exact ⟨more _ h.1, more _ h.2⟩

/-- What the deeds so far say of the store and its clients. -/
structure Traced (u : Upkeep σ) (s₀ : Settings) (ds : List Deed) (s : SharedStore σ ι) : Prop where
  memory : s.store.current = (lastEdited ds).getD s₀
  record : ∃ m, u.holds s.store.storage m ∧ ∀ x, lastStored ds = some x → m key = some x.json
  clients : ∀ i, Accounted ds (s.stage i)

/-- The others are where they were. -/
theorem Traced.clients_proceed {u : Upkeep σ} {s₀ : Settings} {ds ds' : List Deed}
    {s : SharedStore σ ι} (h : Traced u s₀ ds s) (more : ∀ d ∈ ds, d ∈ ds') {i : ι}
    (stage : UpdateStage) (now : Accounted ds' stage) (store : SettingsStore σ) (j : ι) :
    Accounted ds' ((s.proceed i stage store).stage j) := by
  by_cases same : j = i
  · rw [same, stage_proceed]
    exact now
  · rw [stage_proceed_of_ne same]
    exact (h.clients j).mono more

/-- **A turn adds its deed.** -/
theorem Traced.turn {u : Upkeep σ} (keeps : backend.Keeps u) (usable : u.usable key)
    {s₀ : Settings} {ds : List Deed} {s : SharedStore σ ι} (h : Traced u s₀ ds s) (i : ι) :
    Traced u s₀ (ds ++ (deed backend i s).toList) (turn backend i s) := by
  obtain ⟨m, holds, record⟩ := h.record
  have turned := turn_cases backend i s
  generalize deed backend i s = done at turned ⊢
  generalize SharedStore.turn backend i s = s' at turned ⊢
  cases turned with
  | @edits change x before accepted =>
      rw [Option.toList_some]
      refine ⟨?_, ⟨m, holds, ?_⟩,
        h.clients_proceed (fun _ hd => List.mem_append_left _ hd) (.edited x) ?_ _⟩
      · rw [lastEdited_edited]
        rfl
      · rw [lastStored_edited]
        exact record
      · exact List.mem_append_right ds List.mem_cons_self
  | @rejects change e before rejected =>
      rw [Option.toList_none, List.append_nil]
      exact ⟨h.memory, ⟨m, holds, record⟩,
        h.clients_proceed (fun _ hd => hd) (.answered (.error (.rejected e))) trivial _⟩
  | @stores x storage before put =>
      -- what is stored now was edited in an earlier turn
      have edited : Deed.edited x ∈ ds := by
        have accounted := h.clients i
        rw [before] at accounted
        exact accounted
      rw [Option.toList_some]
      refine ⟨?_, ⟨_, keeps.put_ok holds usable put, ?_⟩,
        h.clients_proceed (fun _ hd => List.mem_append_left _ hd) (.answered (.ok x)) ?_ _⟩
      · rw [lastEdited_stored]
        exact h.memory
      · intro y last
        rw [lastStored_stored] at last
        injection last with last
        rw [← last]
        exact Texts.assign_self key _ m
      · exact ⟨List.mem_append_left _ edited, List.mem_append_right ds List.mem_cons_self⟩
  | @refused x e storage before put =>
      rw [Option.toList_none, List.append_nil]
      exact ⟨h.memory, ⟨m, keeps.put_error holds usable put, record⟩,
        h.clients_proceed (fun _ hd => hd) (.answered (.error e)) trivial _⟩
  | @rests result before =>
      rw [Option.toList_none, List.append_nil]
      exact h

/-- **Memory and record follow the deeds** of all turns. -/
theorem Traced.run {u : Upkeep σ} (keeps : backend.Keeps u) (usable : u.usable key)
    {s₀ : Settings} {ds : List Deed} {s : SharedStore σ ι} (h : Traced u s₀ ds s)
    (turns : List ι) :
    Traced u s₀ (ds ++ deeds backend turns s) (run backend turns s) := by
  induction turns generalizing ds s with
  | nil =>
      rw [deeds, List.append_nil]
      exact h
  | cons i turns ih =>
      rw [deeds, ← List.append_assoc]
      exact ih (h.turn keeps usable i)

/-- **What is read back is what was stored last, and what is in memory was
edited last**, however the clients took turns.  Once an update was answered
the two are the same settings just if nothing else was edited last than was
stored last. -/
theorem record_follows_last_store {u : Upkeep σ} (keeps : backend.Keeps u)
    (usable : u.usable key) {s : SharedStore σ ι} {m : Texts} (holds : u.holds s.store.storage m)
    (waiting : ∀ i, ∃ change, s.stage i = .waiting change) (turns : List ι) {i : ι} {x : Settings}
    (answered : (run backend turns s).stage i = .answered (.ok x)) :
    ∃ edited stored, lastEdited (deeds backend turns s) = some edited
      ∧ lastStored (deeds backend turns s) = some stored
      ∧ (run backend turns s).store.current = edited
      ∧ ((backend.get key).on (run backend turns s).store.storage).1 = .ok (some stored.json)
      ∧ (Settings.codec.decode stored.json = .ok (run backend turns s).store.current
          ↔ stored = edited) := by
  have start : Traced u s.store.current [] s := by
    refine ⟨rfl, ⟨m, holds, fun _ last => nomatch last⟩, fun j => ?_⟩
    obtain ⟨change, before⟩ := waiting j
    rw [before]
    trivial
  have traced := start.run keeps usable turns
  rw [List.nil_append] at traced
  have both := traced.clients i
  rw [answered] at both
  obtain ⟨edited, hedited⟩ := exists_lastEdited both.1
  obtain ⟨stored, hstored⟩ := exists_lastStored both.2
  have memory : (run backend turns s).store.current = edited := by
    rw [traced.memory, hedited]
    rfl
  obtain ⟨m', holds', record⟩ := traced.record
  obtain ⟨_, got, -⟩ := keeps.get holds' usable
  have decoded : Settings.codec.decode stored.json = .ok stored :=
    Settings.codec_lawful.decode_encode stored
  refine ⟨edited, stored, hedited, hstored, memory, ?_, ?_⟩
  · rw [got, record stored hstored]
  · rw [memory, decoded]
    constructor
    · intro same
      injection same
    · intro same
      rw [same]

/-- Two clients of a new store in memory: one names the organisation, the
other one sets the MTU. -/
def twoClients : SharedStore (Entries String) Bool where
  store := ⟨[], .default⟩
  stage := fun second =>
    .waiting (if second then Settings.setMtu 1300 else fun s => .ok { s with orgId := "org_1" })

/-- Whoever edited last stores last: the record is read back as what is in
memory. -/
theorem update_in_order_is_kept :
    (SecretStore.memory.Keeps .memory ∧ Upkeep.memory.usable key
        ∧ Upkeep.memory.holds twoClients.store.storage .none
        ∧ (∀ i, ∃ change, twoClients.stage i = .waiting change)
        ∧ (run .memory [false, true, false, true] twoClients).stage true
          = .answered (.ok { orgId := "org_1", mtu := 1300 }))
      ∧ ∃ stored, Settings.codec.decode stored
        = .ok (run .memory [false, true, false, true] twoClients).store.current := by
  have keeps : SecretStore.memory.Keeps .memory := SecretStore.memory_obliging.toKeeps
  have holds : Upkeep.memory.holds twoClients.store.storage .none := ⟨Entries.ordered_nil, rfl⟩
  have waiting : ∀ i, ∃ change, twoClients.stage i = .waiting change := fun i => ⟨_, rfl⟩
  have answered : (run .memory [false, true, false, true] twoClients).stage true
      = .answered (.ok { orgId := "org_1", mtu := 1300 }) := rfl
  refine ⟨⟨keeps, trivial, holds, waiting, answered⟩, ?_⟩
  obtain ⟨edited, stored, hedited, hstored, -, -, same⟩ :=
    record_follows_last_store keeps trivial holds waiting [false, true, false, true] answered
  refine ⟨stored.json, same.mpr ?_⟩
  have memory : some edited = some { orgId := "org_1", mtu := 1300 } := hedited.symm.trans rfl
  have record : some stored = some { orgId := "org_1", mtu := 1300 } := hstored.symm.trans rfl
  injection record.trans memory.symm

/-- **An update that was answered can be lost.**  The first client to edit
stores last, and its record has no trace of the second one's edit. -/
theorem interleaved_update_is_lost :
    let s := run .memory [false, true, true, false] twoClients
    (s.stage false = .answered (.ok { orgId := "org_1" })
        ∧ s.stage true = .answered (.ok { orgId := "org_1", mtu := 1300 }))
      ∧ s.store.current = { orgId := "org_1", mtu := 1300 }
      ∧ (load .memory s.store.storage).current = { orgId := "org_1" }
      ∧ ∃ raw, (SecretStore.memory.get key).on s.store.storage = (.ok (some raw), s.store.storage)
        ∧ Settings.codec.decode raw ≠ .ok s.store.current := by
  intro s
  have decoded : Settings.codec.decode (Settings.json { orgId := "org_1" })
      = .ok { orgId := "org_1" } := Settings.codec_lawful.decode_encode _
  have got : (SecretStore.memory.get key).on s.store.storage
      = (.ok (some (Settings.json { orgId := "org_1" })), s.store.storage) := rfl
  refine ⟨⟨rfl, rfl⟩, rfl, ?_, Settings.json { orgId := "org_1" }, got, ?_⟩
  · rw [load_of_get got, ofStored_of_decode decoded]
    rfl
  · rw [decoded]
    intro same
    injection same with same
    exact absurd (congrArg Settings.mtu same) (by decide)

end TunnelControl.SharedStore
