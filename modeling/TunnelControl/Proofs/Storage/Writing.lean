/-
  TunnelControl.Proofs.Storage.Writing
  ────────────────────────────────────
  **REPLACING A FILE THROUGH ITS NEIGHBOUR.**

  A file is replaced by writing a neighbour that then takes its place.  The
  steps of that need folders on the way and two places that are no folders;
  once they have gone through, all of this is there for the next time.

    • `place_of_openEmpty`, `append_of_file`, `rename_of_file` — the steps,
    • `Place`                 — what the steps need,
    • `Place.run_saving`      — with that they go through, and what they leave,
    • `CanSave`, `exists_place` — steps that went through have found it.
-/
import TunnelControl.Proofs.Storage.FileTree
import TunnelControl.Storage.FileStore

namespace TunnelControl

namespace FileTree

variable {t t' : FileTree}

/-! ## §1. Single steps. -/

theorem node_put (l m : Location) (n : Node) (t : FileTree) :
    (t.put l n).node m = if m = l then some n else t.node m := rfl

theorem node_drop (l m : Location) (t : FileTree) :
    (t.drop l).node m = if m = l then none else t.node m := rfl

/-- What is put and dropped again leaves no trace. -/
@[simp] theorem drop_put (l : Location) (n : Node) (t : FileTree) : (t.put l n).drop l = t.drop l := by
  have node : ((t.put l n).drop l).node = (t.drop l).node := by
    funext m
    rw [node_drop, node_drop, node_put]
    split
    next => rfl
    next => rfl
  exact congrArg (FileTree.mk · t.here) node

@[simp] theorem put_put (l : Location) (n n' : Node) (t : FileTree) :
    (t.put l n).put l n' = t.put l n' := by
  have node : ((t.put l n).put l n').node = (t.put l n').node := by
    funext m
    rw [node_put, node_put, node_put]
    split
    next => rfl
    next => rfl
  exact congrArg (FileTree.mk · t.here) node

/-- A file in place of what is no folder leaves the folders. -/
theorem foldersIn_put {l : Location} (free : t.node l ≠ some .directory) (n : Node) :
    FoldersIn t (t.put l n) := by
  refine ⟨rfl, fun m folder => ?_⟩
  have other : m ≠ l := by
    rintro rfl
    exact free folder
  rw [node_put, if_neg other]
  exact folder

/-- And it adds none. -/
theorem put_foldersIn (l : Location) (c : Content) (mode : Nat) (t : FileTree) :
    FoldersIn (t.put l (.file c mode)) t := by
  refine ⟨rfl, fun m folder => ?_⟩
  rw [node_put] at folder
  split at folder
  next => cases folder
  next => exact folder

theorem foldersIn_drop {l : Location} (free : t.node l ≠ some .directory) :
    FoldersIn t (t.drop l) := by
  refine ⟨rfl, fun m folder => ?_⟩
  have other : m ≠ l := by
    rintro rfl
    exact free folder
  rw [node_drop, if_neg other]
  exact folder

theorem drop_foldersIn (l : Location) (t : FileTree) : FoldersIn (t.drop l) t := by
  refine ⟨rfl, fun m folder => ?_⟩
  rw [node_drop] at folder
  split at folder
  next => cases folder
  next => exact folder

/-- What a path leads to, if it names a file that is there. -/
theorem find_of_file {p : Path} {l : Location} {c : Content} {mode : Nat}
    (found : t.locate p = .ok l) (file : p.folder = false)
    (node : t.node l = some (.file c mode)) : t.find p = .ok (l, .file c mode) := by
  unfold find
  simp only [found, node, file]
  rfl

theorem find_of_none {p : Path} {l : Location} (found : t.locate p = .ok l)
    (node : t.node l = none) : t.find p = .error .notFound := by
  unfold find
  simp only [found, node]

/-- Opening a file goes through in a folder, where no folder has the name. -/
theorem openEmpty_of_free {p : Path} {l : Location} (found : t.locate p = .ok l)
    (file : p.folder = false) (free : t.node l ≠ some .directory)
    (parent : t.node l.dropLast = some .directory) (mode : Nat) :
    ∃ kept, t.openEmpty p mode = .ok (t.put l (.file (.text "") kept)) := by
  unfold openEmpty
  simp only [found, file]
  cases node : t.node l with
  | none => exact ⟨mode, by simp [parent]⟩
  | some n =>
      cases n with
      | directory => exact absurd node free
      | file c kept => exact ⟨kept, by simp⟩

/-- A file that was opened has no folder's name, and it was there or is in a
folder. -/
theorem place_of_openEmpty {p : Path} {mode : Nat} (opened : t.openEmpty p mode = .ok t') :
    ∃ l kept, t.locate p = .ok l ∧ p.folder = false ∧ t.node l ≠ some .directory
      ∧ (t.node l ≠ none ∨ t.node l.dropLast = some .directory)
      ∧ t' = t.put l (.file (.text "") kept) := by
  unfold openEmpty at opened
  cases found : t.locate p with
  | error e =>
      rw [found] at opened
      cases opened
  | ok l =>
      simp only [found] at opened
      split at opened
      next => cases opened
      next file =>
        have named := Bool.eq_false_iff.mpr file
        split at opened
        next => cases opened
        next c kept node =>
          injection opened with opened
          exact ⟨l, kept, rfl, named, by simp [node], .inl (by simp [node]), opened.symm⟩
        next node =>
          split at opened
          next parent =>
            injection opened with opened
            exact ⟨l, mode, rfl, named, by simp [node], .inr parent, opened.symm⟩
          next => cases opened
          next => cases opened

/-- A file that was opened is in a folder, and no folder has its name. -/
theorem free_of_openEmpty (sound : InFolders t) {p : Path} {mode : Nat}
    (h : t.openEmpty p mode = .ok t') :
    ∃ l kept, t.locate p = .ok l ∧ p.folder = false ∧ t.node l ≠ some .directory
      ∧ t.node l.dropLast = some .directory ∧ t' = t.put l (.file (.text "") kept) := by
  obtain ⟨l, kept, found, file, free, there, same⟩ := place_of_openEmpty h
  exact ⟨l, kept, found, file, free, there.elim (sound l) id, same⟩

theorem append_of_file {p : Path} {l : Location} {old : String} {mode : Nat}
    (found : t.locate p = .ok l) (file : p.folder = false)
    (node : t.node l = some (.file (.text old) mode)) (s : String) :
    t.append p s = .ok (t.put l (.file (.text (old ++ s)) mode)) := by
  unfold append
  rw [find_of_file found file node]

/-- A file takes the place of another, or a place where nothing is. -/
theorem rename_of_file {source target : Path} {l l' : Location} {c : Content} {mode : Nat}
    (found : t.locate source = .ok l) (file : source.folder = false)
    (node : t.node l = some (.file c mode)) (found' : t.locate target = .ok l')
    (file' : target.folder = false) (free : t.node l' ≠ some .directory) :
    t.rename source target = .ok ((t.drop l).put l' (.file c mode)) := by
  unfold rename
  rw [find_of_file found file node, found']
  cases node' : t.node l' with
  | none => simp [file']
  | some n =>
      cases n with
      | directory => exact absurd node' free
      | file c' mode' => simp [file']

/-- A file was moved to a path that names a file, and no folder is there. -/
theorem free_of_rename {source target : Path} (h : t.rename source target = .ok t') :
    ∃ l, t.locate target = .ok l ∧ target.folder = false ∧ t.node l ≠ some .directory := by
  unfold rename at h
  cases found : t.find source with
  | error e =>
      rw [found] at h
      cases h
  | ok r =>
      cases found' : t.locate target with
      | error e =>
          rw [found, found'] at h
          cases h
      | ok l' =>
          obtain ⟨l, n⟩ := r
          rw [found, found'] at h
          cases n with
          | directory => cases h
          | file c mode =>
              simp only [] at h
              cases file : target.folder with
              | true =>
                  rw [if_pos file] at h
                  cases h
              | false =>
                  refine ⟨l', rfl, rfl, fun folder => ?_⟩
                  rw [if_neg (by simp [file]), folder] at h
                  cases h

end FileTree

namespace FileStore

open FileTree

variable {path : Path} {t t' : FileTree} {spare own : Location}

/-! ## §2. The place of a file. -/

/-- A file can be replaced: the folders on its way are there, and neither its
own place nor that of its neighbour is a folder. -/
structure Place (path : Path) (t : FileTree) (spare own : Location) : Prop where
  folders : ∀ p ∈ path.folders, t.LeadsToFolder p
  spareFound : t.locate path.temporary = .ok spare
  ownFound : t.locate path = .ok own
  spareFile : path.temporary.folder = false
  ownFile : path.folder = false
  spareFree : t.node spare ≠ some .directory
  ownFree : t.node own ≠ some .directory
  /-- The neighbour is in a folder. -/
  parent : t.node spare.dropLast = some .directory

/-- A place depends on folders alone. -/
theorem Place.of_foldersIn (place : Place path t spare own) (grown : FoldersIn t t')
    (shrunk : FoldersIn t' t) : Place path t' spare own where
  folders := fun p hp => (place.folders p hp).mono grown
  spareFound := locate_mono grown place.spareFound
  ownFound := locate_mono grown place.ownFound
  spareFile := place.spareFile
  ownFile := place.ownFile
  spareFree := fun folder => place.spareFree (shrunk.folders _ folder)
  ownFree := fun folder => place.ownFree (shrunk.folders _ folder)
  parent := grown.folders _ place.parent

/-- The steps that write the neighbour and put it in the file's place. -/
def writing (path : Path) (text : String) : List FileStep :=
  [.openPrivate path.temporary, .append path.temporary text, .sync path.temporary,
    .rename path.temporary path]

theorem saving_eq (path : Path) (text : String) :
    saving path text = path.folders.map .makeFolder ++ writing path text := rfl

/-- The tree in which the neighbour has taken the file's place. -/
def replaced (t : FileTree) (spare own : Location) (text : String) (mode : Nat) : FileTree :=
  (t.drop spare).put own (.file (.text text) mode)

/-- **In its place a file is replaced.** -/
theorem Place.run_writing (place : Place path t spare own) (text : String) :
    ∃ mode, t.run (writing path text) = (none, replaced t spare own text mode) := by
  obtain ⟨mode, opened⟩ := openEmpty_of_free place.spareFound place.spareFile place.spareFree
    place.parent 0o600
  refine ⟨mode, ?_⟩
  -- the neighbour, first empty and then with the text; the folders stay throughout
  have grown (c : Content) : FoldersIn t (t.put spare (.file c mode)) :=
    foldersIn_put place.spareFree _
  have appended : (t.put spare (.file (.text "") mode)).append path.temporary text
      = .ok (t.put spare (.file (.text text) mode)) := by
    rw [append_of_file (locate_mono (grown _) place.spareFound) place.spareFile
      (by rw [node_put, if_pos rfl]) text, put_put, String.empty_append]
  have ownFree : (t.put spare (.file (.text text) mode)).node own ≠ some .directory :=
    fun folder => place.ownFree ((put_foldersIn spare _ mode t).folders _ folder)
  have renamed := rename_of_file (locate_mono (grown (.text text)) place.spareFound) place.spareFile
    (by rw [node_put, if_pos rfl]) (locate_mono (grown _) place.ownFound) place.ownFile ownFree
  rw [drop_put] at renamed
  unfold writing
  refine run_cons_eq_none.mpr ⟨_, opened, run_cons_eq_none.mpr ⟨_, appended, ?_⟩⟩
  exact run_cons_eq_none.mpr ⟨_, rfl, run_cons_eq_none.mpr ⟨_, renamed, rfl⟩⟩

theorem Place.replaced (place : Place path t spare own) (text : String) (mode : Nat) :
    Place path (replaced t spare own text mode) spare own := by
  have dropped : FoldersIn t (t.drop spare) := foldersIn_drop place.spareFree
  have free : (t.drop spare).node own ≠ some .directory :=
    fun folder => place.ownFree ((drop_foldersIn spare t).folders _ folder)
  exact place.of_foldersIn (dropped.trans (foldersIn_put free _))
    ((put_foldersIn own _ mode _).trans (drop_foldersIn spare t))

theorem Place.dropped (place : Place path t spare own) : Place path (t.drop own) spare own :=
  place.of_foldersIn (foldersIn_drop place.ownFree) (drop_foldersIn own t)

/-- **What is read where nothing is.** -/
theorem Place.readText_none (place : Place path t spare own) (node : t.node own = none) :
    t.readText path = .error .notFound := by
  unfold readText
  rw [find_of_none place.ownFound node]

/-- What is read where the neighbour has taken the file's place. -/
theorem readText_replaced {text : String} {mode : Nat} (spareFree : t.node spare ≠ some .directory)
    (ownFound : t.locate path = .ok own) (ownFile : path.folder = false)
    (ownFree : t.node own ≠ some .directory) :
    (replaced t spare own text mode).readText path = .ok text := by
  have free : (t.drop spare).node own ≠ some .directory :=
    fun folder => ownFree ((drop_foldersIn spare t).folders _ folder)
  have grown : FoldersIn t (replaced t spare own text mode) :=
    (foldersIn_drop spareFree).trans (foldersIn_put free _)
  have node : (replaced t spare own text mode).node own = some (.file (.text text) mode) := if_pos rfl
  unfold readText
  rw [find_of_file (locate_mono grown ownFound) ownFile node]

/-- **What is read is what was written last.** -/
theorem Place.readText_replaced (place : Place path t spare own) (text : String) (mode : Nat) :
    (FileStore.replaced t spare own text mode).readText path = .ok text :=
  FileStore.readText_replaced place.spareFree place.ownFound place.ownFile place.ownFree

/-- Only the file itself has come. -/
theorem file_of_replaced {text : String} {mode mode' : Nat} {l : Location} {c : Content}
    (file : (replaced t spare own text mode).node l = some (.file c mode')) :
    l = own ∨ t.node l = some (.file c mode') := by
  by_cases same : l = own
  · exact .inl same
  · unfold replaced at file
    rw [node_put, if_neg same, node_drop] at file
    split at file
    next => cases file
    next => exact .inr file

/-! ## §3. Where a file can be saved. -/

/-- No step of replacing the file fails, with some text. -/
def CanSave (path : Path) (t : FileTree) : Prop := ∃ text, (t.run (saving path text)).1 = none

theorem beginnings_ne_nil {α : Type} (parts : List α) : [] ∉ Path.beginnings parts := by
  induction parts with
  | nil => exact List.not_mem_nil
  | cons a rest _ =>
      cases rest with
      | nil => exact List.not_mem_nil
      | cons b rest => simp [Path.beginnings]

theorem parts_ne_nil_of_mem_folders {p : Path} (h : p ∈ path.folders) : p.parts ≠ [] := by
  unfold Path.folders at h
  obtain ⟨parts, hp, rfl⟩ := List.mem_map.mp h
  rintro rfl
  exact beginnings_ne_nil _ hp

/-- **Steps that go through find the file's place.** -/
theorem exists_place (sound : InFolders t) (can : CanSave path t) :
    ∃ t₁ spare own, t.run (path.folders.map .makeFolder) = (none, t₁) ∧ Added t t₁
      ∧ Place path t₁ spare own := by
  obtain ⟨text, saved⟩ := can
  have whole : t.run (saving path text) = (none, (t.run (saving path text)).2) := by rw [← saved]
  rw [saving_eq] at whole
  obtain ⟨t₁, made, written⟩ := run_append_eq_none.mp whole
  obtain ⟨added, there⟩ := run_makeFolder (fun p hp => parts_ne_nil_of_mem_folders hp) made
  obtain ⟨t₂, opened, written⟩ := run_cons_eq_none.mp written
  obtain ⟨spare, kept, found, file, free, parent, rfl⟩ :=
    free_of_openEmpty (added.inFolders sound) opened
  have grown : FoldersIn t₁ (t₁.put spare (.file (.text "") kept)) := foldersIn_put free _
  -- the neighbour is there, so the text is added to it
  obtain ⟨t₃, appended, written⟩ := run_cons_eq_none.mp written
  have append : (t₁.put spare (.file (.text "") kept)).append path.temporary text = .ok t₃ :=
    appended
  rw [append_of_file (locate_mono grown found) file (by rw [node_put, if_pos rfl]), put_put] at append
  injection append with append
  subst append
  obtain ⟨t₄, synced, written⟩ := run_cons_eq_none.mp written
  injection synced with synced
  subst synced
  obtain ⟨t₅, renamed, -⟩ := run_cons_eq_none.mp written
  obtain ⟨own, found', file', free'⟩ := free_of_rename renamed
  have shrunk := put_foldersIn spare (.text ("" ++ text)) kept t₁
  exact ⟨t₁, spare, own, made, added,
    { folders := there, spareFound := found, ownFound := locate_mono shrunk found'
      spareFile := file, ownFile := file', spareFree := free
      ownFree := fun folder =>
        free' ((foldersIn_put free (.file (.text ("" ++ text)) kept)).folders _ folder)
      parent := parent }⟩

/-- **Where a file can be saved it is saved**, whatever the text is, and its
place is there then. -/
theorem run_saving (sound : InFolders t) (can : CanSave path t) (text : String) :
    ∃ t₁ spare own mode, Added t t₁ ∧ Place path t₁ spare own
      ∧ t.run (saving path text) = (none, replaced t₁ spare own text mode) := by
  obtain ⟨t₁, spare, own, made, added, place⟩ := exists_place sound can
  obtain ⟨mode, written⟩ := place.run_writing text
  exact ⟨t₁, spare, own, mode, added, place, run_append_eq_none.mpr ⟨t₁, made, written⟩⟩

/-- **In its place a file is saved.** -/
theorem Place.run_saving (place : Place path t spare own) (text : String) :
    ∃ mode, t.run (saving path text) = (none, FileStore.replaced t spare own text mode) := by
  obtain ⟨mode, written⟩ := place.run_writing text
  exact ⟨mode, run_append_eq_none.mpr ⟨t, run_makeFolder_of_there place.folders, written⟩⟩

end FileStore

end TunnelControl
