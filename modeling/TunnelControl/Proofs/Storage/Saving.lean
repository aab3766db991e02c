/-
  TunnelControl.Proofs.Storage.Saving
  ───────────────────────────────────
  **A FILE IS REPLACED WHOLLY OR NOT AT ALL.**

  Nothing is asked of the tree here: folders may be missing, and files may be
  in the way.  Wherever the steps of saving stop, the file still holds what it
  held; only once the last of them is done it holds the new text.

    • `place`, `held`       — where a path leads, and which file is there,
    • `locate_of_temporary` — beside a neighbour there is a place,
    • `writing_cases`, `saving_cases` — how saving ends,
    • `save_cases`, `put_cases`, `clear_cases` — what the file holds then.
-/
import TunnelControl.Proofs.Storage.FileStore

namespace TunnelControl

namespace FileTree

variable {t t' : FileTree} {p : Path}

/-! ## §1. Where a path leads. -/

/-- The location that names lead to, if all of them are there. -/
def follow : Location → List String → Location
  | l, [] => l
  | l, part :: rest => follow (if part = ".." then l.dropLast else l ++ [part]) rest

/-- The location of a path, whether or not the folders on its way are there. -/
def place (t : FileTree) (p : Path) : Location := follow (if p.absolute then [] else t.here) p.parts

theorem walk_eq_follow {l m : Location} {parts : List String} (found : t.walk l parts = .ok m) :
    m = follow l parts := by
  induction parts generalizing l with
  | nil =>
      injection found with found
      exact found.symm
  | cons part rest ih => exact ih (walk_cons_eq_ok.mp found).2

/-- **A path that leads somewhere leads to its place.** -/
theorem locate_eq_place {l : Location} (found : t.locate p = .ok l) : l = t.place p := by
  unfold locate at found
  split at found
  next => cases found
  next => exact walk_eq_follow found

theorem place_of_here (same : t'.here = t.here) : t'.place p = t.place p := by
  unfold place
  rw [same]

theorem place_put (l : Location) (n : Node) (t : FileTree) (p : Path) :
    (t.put l n).place p = t.place p := rfl

theorem place_drop (l : Location) (t : FileTree) (p : Path) : (t.drop l).place p = t.place p := rfl

/-- What the file of a path holds.  A path that names a folder has no file. -/
def held (t : FileTree) (p : Path) : Option Content :=
  match p.folder, t.node (t.place p) with
  | false, some (.file c _) => some c
  | _, _ => none

theorem held_eq_some_iff {c : Content} :
    t.held p = some c ↔ p.folder = false ∧ ∃ mode, t.node (t.place p) = some (.file c mode) := by
  unfold held
  split
  next c' mode file node => simp [file, node]
  next other =>
    constructor
    · intro none
      cases none
    · rintro ⟨file, mode, node⟩
      exact (other c mode file node).elim

theorem held_of_folder (folder : p.folder = true) : t.held p = none := by
  unfold held
  rw [folder]

/-- **Folders that are added leave every file.** -/
theorem Added.held (h : Added t t') : t'.held p = t.held p := by
  have file (l : Location) (c : Content) (mode : Nat) :
      t'.node l = some (.file c mode) ↔ t.node l = some (.file c mode) := by
    refine ⟨h.file, fun file => ?_⟩
    rcases h.changed l with same | ⟨empty, -⟩
    · exact same.trans file
    · cases empty.symm.trans file
  refine Option.ext fun c => ?_
  simp only [held_eq_some_iff, place_of_here h.grown.here, file]

/-- A file that is found is held. -/
theorem held_of_find {l : Location} {c : Content} {mode : Nat}
    (found : t.find p = .ok (l, .file c mode)) : t.held p = some c := by
  have located := FileStore.locate_of_find found
  unfold find at found
  simp only [located] at found
  split at found
  next => cases found
  next c' mode' node =>
    split at found
    next => cases found
    next file =>
      injection found with found
      injection found with _ found
      injection found with same same'
      subst same same'
      rw [locate_eq_place located] at node
      exact held_eq_some_iff.mpr ⟨Bool.eq_false_iff.mpr file, _, node⟩
  next =>
    injection found with found
    injection found with _ found
    cases found

/-- A text that is read is what the file holds. -/
theorem held_of_readText {raw : String} (read : t.readText p = .ok raw) :
    t.held p = some (.text raw) := by
  obtain ⟨l, mode, found, -⟩ := FileStore.file_of_readText read
  exact held_of_find found

/-! ## §2. Beside a neighbour. -/

/-- **Where the neighbour of a path has a place, the path has one.** -/
theorem locate_of_temporary {l : Location} (found : t.locate p.temporary = .ok l) :
    ∃ own, t.locate p = .ok own := by
  unfold Path.temporary at found
  cases last : p.parts.getLast? with
  | none =>
      rw [last] at found
      exact ⟨l, found⟩
  | some name =>
      obtain ⟨front, split⟩ := List.getLast?_eq_some_iff.mp last
      have there : p.isEmpty = false := by simp [Path.isEmpty, split]
      simp only [last] at found
      by_cases up : name = ".."
      · rw [if_pos up] at found
        exact ⟨l, found⟩
      · rw [if_neg up, split, List.dropLast_concat] at found
        unfold locate at found ⊢
        rw [there, if_neg Bool.false_ne_true, split]
        split at found
        next => cases found
        next =>
          -- both last names are followed from the same folder
          obtain ⟨k, led, inside, -⟩ := walk_concat_eq_ok.mp found
          exact ⟨_, walk_concat_eq_ok.mpr ⟨k, led, inside, rfl⟩⟩

end FileTree

namespace FileStore

open FileTree

variable {path : Path} {t t' t₁ : FileTree} {text : String}

/-! ## §3. How saving ends. -/

/-- Where nothing is held beside a new file, nothing was held before. -/
theorem held_of_put {l : Location} {c : Content} {mode : Nat} {p : Path}
    (nothing : (t.put l (.file c mode)).held p = none) : t.held p = none := by
  cases before : t.held p with
  | none => rfl
  | some c' =>
      obtain ⟨file, mode', node⟩ := held_eq_some_iff.mp before
      have after : ∃ d, (t.put l (.file c mode)).held p = some d := by
        simp only [held_eq_some_iff, place_put, node_put]
        by_cases same : t.place p = l
        · exact ⟨c, file, mode, if_pos same⟩
        · exact ⟨c', file, mode', (if_neg same).trans node⟩
      obtain ⟨d, after⟩ := after
      cases nothing.symm.trans after

/-- The written neighbour takes the file's place, unless the path is that of a
folder. -/
theorem rename_cases {spare : Location} {mode : Nat} (found : t.locate path.temporary = .ok spare)
    (file : path.temporary.folder = false) (node : t.node spare = some (.file (.text text) mode)) :
    (∃ t', t.rename path.temporary path = .ok t' ∧ t'.readText path = .ok text)
      ∨ ∃ e, t.rename path.temporary path = .error e ∧ t.held path = none := by
  obtain ⟨own, located⟩ := locate_of_temporary found
  cases renamed : t.rename path.temporary path with
  | ok t' =>
      obtain ⟨l, located', folder, free⟩ := free_of_rename renamed
      rw [rename_of_file found file node located' folder free] at renamed
      injection renamed with renamed
      subst renamed
      exact .inl ⟨_, rfl, readText_replaced (by simp [node]) located' folder free⟩
  | error e =>
      refine .inr ⟨e, rfl, ?_⟩
      cases folder : path.folder with
      | true => exact held_of_folder folder
      | false =>
          by_cases free : t.node own = some .directory
          · -- a folder has the name of the file
            unfold held
            rw [folder, ← locate_eq_place located, free]
          · rw [rename_of_file found file node located folder free] at renamed
            cases renamed

/-- **Wherever the steps that write a file stop, the file holds what it held**;
after the last it holds the new text. -/
theorem writing_cases (path : Path) (text : String) (t : FileTree) :
    (∃ t', t.run (writing path text) = (none, t') ∧ t'.readText path = .ok text)
      ∨ ∃ e t', t.run (writing path text) = (some e, t') ∧ t'.held path = t.held path := by
  unfold writing
  rw [run]
  cases opened : t.openEmpty path.temporary 0o600 with
  | error e => exact .inr ⟨e, t, by simp only [FileStep.perform, opened], rfl⟩
  | ok t₁ =>
      obtain ⟨spare, mode, found, file, free, -, rfl⟩ := place_of_openEmpty opened
      have grown (s : String) : FoldersIn t (t.put spare (.file (.text s) mode)) :=
        foldersIn_put free _
      have there (s : String) : (t.put spare (.file (.text s) mode)).node spare
          = some (.file (.text s) mode) := if_pos rfl
      have appended : (t.put spare (.file (.text "") mode)).append path.temporary text
          = .ok (t.put spare (.file (.text text) mode)) := by
        rw [append_of_file (locate_mono (grown "") found) file (there ""), put_put,
          String.empty_append]
      simp only [FileStep.perform, opened, run, appended]
      -- the neighbour is written, and only its move is left
      rcases rename_cases (locate_mono (grown text) found) file (there text) with
        ⟨t', renamed, read⟩ | ⟨e, renamed, none⟩
      · exact .inl ⟨t', by rw [renamed], read⟩
      · exact .inr ⟨e, _, by rw [renamed], none.trans (held_of_put none).symm⟩

/-- **Wherever saving stops, the file holds what it held**; once it is done the
file holds the new text. -/
theorem saving_cases (path : Path) (text : String) (t : FileTree) :
    (∃ t', t.run (saving path text) = (none, t') ∧ t'.readText path = .ok text)
      ∨ ∃ e t', t.run (saving path text) = (some e, t') ∧ t'.held path = t.held path := by
  have added : Added t (t.run (path.folders.map .makeFolder)).2 :=
    run_makeFolder_added (fun p hp => parts_ne_nil_of_mem_folders hp) t
  rw [saving_eq, run_append]
  generalize t.run (path.folders.map .makeFolder) = made at added
  obtain ⟨failure, t₁⟩ := made
  cases failure with
  | some e => exact .inr ⟨e, t₁, rfl, added.held⟩
  | none =>
      rcases writing_cases path text t₁ with done | ⟨e, t', stopped, same⟩
      · exact .inl done
      · exact .inr ⟨e, t', stopped, same.trans added.held⟩

/-! ## §4. What the file holds after a change of its texts. -/

/-- Entries that were read are in order. -/
theorem ordered_of_decode {raw : String} {entries : Entries String}
    (read : decode raw = .ok entries) : entries.Ordered := by
  unfold decode at read
  split at read
  next =>
    injection read with read
    exact read ▸ Entries.ordered_nil
  next =>
    split at read
    next m decoded =>
      injection read with read
      exact read ▸ Json.Codec.ordered_of_table_decode decoded
    next => cases read

theorem ordered_of_contents {entries : Entries String} (read : contents path t = .ok entries) :
    entries.Ordered := by
  rcases readText_of_contents read with ⟨raw, text⟩ | ⟨-, rfl⟩
  · exact ordered_of_decode ((contents_of_text text).symm.trans read)
  · exact Entries.ordered_nil

/-- The file holds all entries, or what it held. -/
theorem save_cases (path : Path) (entries : Entries String) (t : FileTree) :
    (∃ t', (save path entries).on t = (.ok (), t')
        ∧ t'.readText path = .ok (codec.encodePretty entries))
      ∨ ∃ e t', (save path entries).on t = (.error e, t') ∧ t'.held path = t.held path := by
  unfold save
  rw [Storing.on_act]
  rcases saving_cases path (codec.encodePretty entries) t with ⟨t', done, read⟩ | ⟨e, t', stopped, same⟩
  · exact .inl ⟨t', by rw [done], read⟩
  · exact .inr ⟨.io e, t', by rw [stopped], same⟩

/-- **A text is put among the others, or the file holds what it held.** -/
theorem put_cases (path : Path) (key value : String) (t : FileTree) :
    (∃ entries t', contents path t = .ok entries ∧ (put path key value).on t = (.ok (), t')
        ∧ contents path t' = .ok (entries.insert key value))
      ∨ ∃ e t', (put path key value).on t = (.error e, t') ∧ t'.held path = t.held path := by
  unfold put
  rw [Storing.on_bind]
  cases read : contents path t with
  | error e => exact .inr ⟨e, t, by rw [load, Storing.on_act, read], rfl⟩
  | ok entries =>
      rw [load_on read]
      rcases save_cases path (entries.insert key value) t with ⟨t', saved, text⟩ | ⟨e, t', failed, same⟩
      · refine .inl ⟨entries, t', rfl, saved, ?_⟩
        rw [contents_of_text text]
        exact decode_encodePretty (Entries.ordered_insert (ordered_of_contents read) key value)
      · exact .inr ⟨e, t', failed, same⟩

/-- Where the file can be saved, a text is put among those that can be read. -/
theorem put_of_canSave (sound : InFolders t) (can : CanSave path t) {entries : Entries String}
    (read : contents path t = .ok entries) (key value : String) :
    ((put path key value).on t).1 = .ok () := by
  obtain ⟨t₁, spare, own, mode, -, -, saved⟩ :=
    run_saving sound can (codec.encodePretty (entries.insert key value))
  unfold put
  rw [Storing.on_bind, load_on read]
  show ((save path (entries.insert key value)).on t).1 = _
  unfold save
  rw [Storing.on_act, saved]

/-- Where a file was removed, nothing is held. -/
theorem held_drop {l : Location} (located : t.locate path = .ok l) : (t.drop l).held path = none := by
  refine Option.eq_none_iff_forall_ne_some.mpr fun c held => ?_
  obtain ⟨-, mode, node⟩ := held_eq_some_iff.mp held
  rw [place_drop, ← locate_eq_place located, node_drop, if_pos rfl] at node
  cases node

/-- **Removing the file leaves nothing of it, or everything.** -/
theorem clear_cases (path : Path) (t : FileTree) :
    (∃ t', (clear path).on t = (.ok (), t') ∧ t'.held path = none)
      ∨ ∃ answer, (clear path).on t = (answer, t) := by
  unfold clear FileTree.remove
  rw [Storing.on_act]
  cases found : t.find path with
  | ok r =>
      obtain ⟨l, n⟩ := r
      cases n with
      | directory => exact .inr ⟨_, rfl⟩
      | file c mode => exact .inl ⟨_, rfl, held_drop (locate_of_find found)⟩
  | error e => cases e <;> exact .inr ⟨_, rfl⟩

end FileStore

end TunnelControl
