/-
  TunnelControl.Proofs.Storage.FiniteMaps
  ───────────────────────────────────────
  **ALL STORES ACT AS ONE FINITE MAP.**

  Three stores lay texts out in three ways: entries in memory, a table in a
  file, single secrets with a list of their keys.  Whoever calls them cannot
  tell them apart: after every history each call is answered from the map of
  the history, and a cleared store leaves nothing behind.

    • `ActsAsMap`, `Obliging.actsAsMap` — from single operations to histories,
    • `actsAsMap_file_iff`     — a file is such a store where it can be saved,
    • `stores_act_as_maps`     — memory, file and keyring.
-/
import TunnelControl.Proofs.Storage.FileStore
import TunnelControl.Proofs.Storage.Keyring

namespace TunnelControl

namespace SecretStore

variable {σ : Type}

/-- After every history of admitted calls, each admitted call is answered from
the map of the history, and clearing leaves the storage bare. -/
structure ActsAsMap (backend : SecretStore σ) (admitted : StoreCall → Prop) (bare : σ → Prop)
    (s : σ) : Prop where
  answered : ∀ calls, (∀ c ∈ calls, admitted c) → ∀ c, admitted c →
    c.Answered (textsAfter calls) ((backend.call c).on (backend.run calls s)).1
  cleared : ∀ calls, (∀ c ∈ calls, admitted c) → bare (backend.run (calls ++ [.clear]) s)

/-- **A faithful store that never refuses acts as a map.** -/
theorem Obliging.actsAsMap {backend : SecretStore σ} {u : Upkeep σ} (h : backend.Obliging u)
    {s : σ} (start : u.holds s .none) {admitted : StoreCall → Prop}
    (about : ∀ c, admitted c → c.About u.usable) : backend.ActsAsMap admitted u.bare s where
  answered := by
    intro calls history c hc
    have holds := h.run_holds start fun d hd => about d (history d hd)
    exact (h.call_on holds (about c hc)).1
  cleared := by
    intro calls history
    have holds := h.run_holds start fun d hd => about d (history d hd)
    obtain ⟨s', cleared, -, bare⟩ := h.clear holds
    rw [run_concat, call, Storing.on_map, cleared]
    exact bare

theorem about_of_always {usable : String → Prop} (always : ∀ key, usable key) (c : StoreCall) :
    c.About usable := by
  cases c with
  | get key => exact always key
  | put key value => exact always key
  | remove key => exact always key
  | keys => trivial
  | clear => trivial
  | reopen => trivial

/-- **A file acts as a map where it can be saved**, and nowhere else. -/
theorem actsAsMap_file_iff {path : Path} {t : FileTree} (inFolders : t.InFolders)
    (nothing : t.readText path = .error .notFound) :
    (file path).ActsAsMap (fun _ => True) (FileStore.Bare path t) t ↔ FileStore.CanSave path t := by
  constructor
  · intro acts
    have put := call_put_eq_ok_iff.mp
      (acts.answered [] (fun c hc => absurd hc List.not_mem_nil) (.put "" "") trivial)
    -- nothing is there, so the first text is saved at once
    change ((FileStore.load path >>= fun entries =>
      FileStore.save path (entries.insert "" "")).on t).1 = .ok () at put
    rw [Storing.on_bind, FileStore.load_on (FileStore.contents_of_none nothing)] at put
    exact FileStore.canSave_of_save put
  · intro canSave
    have start : FileStore.Started path t := ⟨inFolders, nothing, canSave⟩
    exact (file_obliging start).actsAsMap start.kept
      fun c _ => about_of_always (fun _ => trivial) c

/-- **Memory, a file and a keyring act as one map.**  The map gives every key
the text that was put last and not removed or cleared away since.  What is in
memory is gone with the store, so that store alone is not made anew; the place
of the list is no key of a keyring. -/
theorem stores_act_as_maps {path : Path} {files : FileTree} {service : String} {ring : Keyring}
    (inFolders : files.InFolders) (nothing : files.readText path = .error .notFound)
    (working : ring.Working) (empty : ring.ofService service = []) :
    (∀ calls key value, textsAfter calls key = some value
        ↔ ∃ before after, calls = before ++ .put key value :: after
          ∧ ∀ c ∈ after, ¬ c.Decides key)
      ∧ memory.ActsAsMap (· ≠ .reopen) (· = []) []
      ∧ ((file path).ActsAsMap (fun _ => True) (FileStore.Bare path files) files
          ↔ FileStore.CanSave path files)
      ∧ (keyring service).ActsAsMap (·.About (· ≠ Keyring.indexKey)) (·.ofService service = [])
          ring := by
  refine ⟨fun _ _ _ => textsAfter_eq_some_iff, ?_, actsAsMap_file_iff inFolders nothing, ?_⟩
  · exact memory_obliging.actsAsMap ⟨Entries.ordered_nil, rfl⟩
      fun c _ => about_of_always (fun _ => trivial) c
  · refine keyring_obliging.actsAsMap (u := .keyring service) ?_ fun c about => about
    refine ⟨working, [], Keyring.laid_of_empty empty, List.nodup_nil, fun key => ?_⟩
    exact ⟨fun hk => absurd hk List.not_mem_nil, fun some => by cases some⟩

/-- A path below a folder that is yet to be made, and a keyring without
secrets. -/
theorem new_stores_act_as_maps :
    let path : Path := ⟨false, ["nested", "settings.json"], false⟩
    let files := FileTree.onlyFolders ["tmp"]
    (files.InFolders ∧ files.readText path = .error .notFound ∧ FileStore.CanSave path files)
      ∧ (Keyring.Working {} ∧ Keyring.ofService "olm" {} = [])
      ∧ (file path).ActsAsMap (fun _ => True) (FileStore.Bare path files) files
      ∧ (keyring "olm").ActsAsMap (·.About (· ≠ Keyring.indexKey)) (·.ofService "olm" = []) {} := by
  intro path files
  have inFolders : files.InFolders := FileTree.inFolders_onlyFolders ["tmp"]
  have nothing : files.readText path = .error .notFound := by decide
  have canSave : FileStore.CanSave path files := ⟨"", by decide⟩
  have working : Keyring.Working {} := fun _ _ => rfl
  have empty : Keyring.ofService "olm" {} = [] := rfl
  obtain ⟨-, -, onFiles, onKeyring⟩ :=
    stores_act_as_maps inFolders nothing working empty
  exact ⟨⟨inFolders, nothing, canSave⟩, ⟨working, empty⟩, onFiles.mpr canSave, onKeyring⟩

end SecretStore

end TunnelControl
