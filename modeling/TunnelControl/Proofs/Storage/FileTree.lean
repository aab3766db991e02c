/-
  TunnelControl.Proofs.Storage.FileTree
  ─────────────────────────────────────
  **WHERE A PATH LEADS WHILE FILES COME AND GO.**

  Following a path asks for folders alone.  So a path that leads somewhere
  leads there still when folders were added or files changed, and what was
  found out about a place stays true while a file is written there.

    • `FoldersIn`, `locate_mono`   — more folders, the same locations,
    • `InFolders`, `node_parent`   — what is in a tree is in a folder,
    • `run_append`                 — steps in a row, taken apart,
    • `makeFolder_added`, `run_makeFolder_added`, `run_makeFolder` — folders on
      the way to a file,
    • `run_makeFolder_of_there`    — and when they are there already.
-/
import TunnelControl.Storage.FileTree

namespace TunnelControl.FileTree

variable {t t' t'' : FileTree}

/-! ## §1. Following a path. -/

/-- Every folder of one tree is a folder of another. -/
structure FoldersIn (t t' : FileTree) : Prop where
  /-- Both have the same working folder. -/
  here : t'.here = t.here
  folders : ∀ l, t.node l = some .directory → t'.node l = some .directory

theorem FoldersIn.refl (t : FileTree) : FoldersIn t t := ⟨rfl, fun _ h => h⟩

theorem FoldersIn.trans (h : FoldersIn t t') (h' : FoldersIn t' t'') : FoldersIn t t'' :=
  ⟨h'.here.trans h.here, fun l hl => h'.folders l (h.folders l hl)⟩

/-- A name is followed from a folder alone. -/
theorem walk_cons_eq_ok {l m : Location} {part : String} {rest : List String} :
    t.walk l (part :: rest) = .ok m
      ↔ t.node l = some .directory
        ∧ t.walk (if part = ".." then l.dropLast else l ++ [part]) rest = .ok m := by
  rw [walk]
  cases h : t.node l with
  | none => simp
  | some n =>
      cases n with
      | file c mode => simp
      | directory => simp

/-- **More folders do not change where names lead.** -/
theorem walk_mono (h : FoldersIn t t') {l m : Location} {parts : List String}
    (found : t.walk l parts = .ok m) : t'.walk l parts = .ok m := by
  induction parts generalizing l with
  | nil => exact found
  | cons part rest ih =>
      obtain ⟨folder, found⟩ := walk_cons_eq_ok.mp found
      exact walk_cons_eq_ok.mpr ⟨h.folders l folder, ih found⟩

theorem locate_mono (h : FoldersIn t t') {p : Path} {l : Location} (found : t.locate p = .ok l) :
    t'.locate p = .ok l := by
  unfold locate at found ⊢
  split at found
  next => cases found
  next named =>
    rw [if_neg named, h.here]
    exact walk_mono h found

/-- The last name is followed from the folder that the others lead to. -/
theorem walk_concat_eq_ok {l m : Location} {parts : List String} {part : String} :
    t.walk l (parts ++ [part]) = .ok m ↔ ∃ k, t.walk l parts = .ok k ∧ t.node k = some .directory
      ∧ m = if part = ".." then k.dropLast else k ++ [part] := by
  induction parts generalizing l with
  | nil =>
      rw [List.nil_append, walk_cons_eq_ok]
      simp [walk, eq_comm]
  | cons first rest ih =>
      simp only [List.cons_append, walk_cons_eq_ok, ih]
      constructor
      · rintro ⟨folder, k, led, inside, rfl⟩
        exact ⟨k, ⟨folder, led⟩, inside, rfl⟩
      · rintro ⟨k, ⟨folder, led⟩, inside, rfl⟩
        exact ⟨folder, k, led, inside, rfl⟩

/-! ## §2. What is in a tree is in a folder. -/

/-- Whatever is in a tree is in a folder; the root is in itself. -/
def InFolders (t : FileTree) : Prop :=
  ∀ l, t.node l ≠ none → t.node l.dropLast = some .directory

theorem InFolders.folder (h : InFolders t) {l : Location} (folder : t.node l = some .directory) :
    t.node l.dropLast = some .directory := by
  apply h l
  rw [folder]
  exact Option.some_ne_none _

theorem inFolders_onlyFolders (here : Location) : InFolders (onlyFolders here) := by
  intro l there
  unfold onlyFolders at there ⊢
  by_cases around : l.isPrefixOf here = true
  · have outer : l.dropLast.isPrefixOf here = true :=
      List.isPrefixOf_iff_prefix.mpr
        ((List.dropLast_prefix l).trans (List.isPrefixOf_iff_prefix.mp around))
    exact if_pos outer
  · exact absurd (if_neg around) there

/-- **A path with a name leads into a folder**, whether or not something is
there. -/
theorem node_parent (h : InFolders t) {p : Path} {l : Location} (found : t.locate p = .ok l)
    (named : p.parts ≠ []) : t.node l.dropLast = some .directory := by
  unfold locate at found
  split at found
  next => cases found
  next =>
    obtain ⟨parts, part, split⟩ : ∃ parts part, p.parts = parts ++ [part] :=
      ⟨_, _, (List.dropLast_concat_getLast named).symm⟩
    rw [split] at found
    obtain ⟨k, -, folder, rfl⟩ := walk_concat_eq_ok.mp found
    by_cases up : part = ".."
    · -- the folder around a folder is in a folder itself
      rw [if_pos up]
      exact h.folder (h.folder folder)
    · rw [if_neg up, List.dropLast_concat]
      exact folder

/-! ## §3. Steps in a row. -/

theorem run_append (steps more : List FileStep) (t : FileTree) :
    t.run (steps ++ more) = match t.run steps with
      | (none, t') => t'.run more
      | (some e, t') => (some e, t') := by
  induction steps generalizing t with
  | nil => rfl
  | cons step steps ih =>
      rw [List.cons_append, run, run]
      cases step.perform t with
      | error e => rfl
      | ok t' => exact ih t'

theorem run_cons_eq_none {step : FileStep} {steps : List FileStep} :
    t.run (step :: steps) = (none, t'') ↔
      ∃ t', step.perform t = .ok t' ∧ t'.run steps = (none, t'') := by
  rw [run]
  cases step.perform t with
  | error e => simp
  | ok t' => simp

theorem run_append_eq_none {steps more : List FileStep} :
    t.run (steps ++ more) = (none, t'') ↔
      ∃ t', t.run steps = (none, t') ∧ t'.run more = (none, t'') := by
  rw [run_append]
  rcases t.run steps with ⟨e | e, t'⟩ <;> simp

/-! ## §4. Folders on the way. -/

/-- A path leads to a folder. -/
def LeadsToFolder (t : FileTree) (p : Path) : Prop :=
  ∃ l, t.locate p = .ok l ∧ t.node l = some .directory

theorem LeadsToFolder.mono (h : FoldersIn t t') {p : Path} (there : t.LeadsToFolder p) :
    t'.LeadsToFolder p := by
  obtain ⟨l, found, folder⟩ := there
  exact ⟨l, locate_mono h found, h.folders l folder⟩

/-- Folders were added to a tree, and nothing else has changed. -/
structure Added (t t' : FileTree) : Prop where
  grown : FoldersIn t t'
  /-- A place that has changed was empty and is a folder now. -/
  changed : ∀ l, t'.node l = t.node l ∨ t.node l = none ∧ t'.node l = some .directory
  inFolders : InFolders t → InFolders t'

theorem Added.refl (t : FileTree) : Added t t := ⟨.refl t, fun _ => .inl rfl, id⟩

theorem Added.trans (h : Added t t') (h' : Added t' t'') : Added t t'' where
  grown := h.grown.trans h'.grown
  changed := by
    intro l
    rcases h'.changed l with same' | ⟨empty, folder⟩
    · rw [same']
      exact h.changed l
    · rcases h.changed l with same | ⟨-, folder'⟩
      · exact .inr ⟨same ▸ empty, folder⟩
      · rw [folder'] at empty
        cases empty
  inFolders := fun sound => h'.inFolders (h.inFolders sound)

/-- No file has come. -/
theorem Added.file (h : Added t t') {l : Location} {c : Content} {mode : Nat}
    (file : t'.node l = some (.file c mode)) : t.node l = some (.file c mode) := by
  rcases h.changed l with same | ⟨-, folder⟩
  · exact same ▸ file
  · rw [folder] at file
    cases file

/-- **Making a folder adds at most this folder**, which is there then. -/
theorem makeFolder_added {p : Path} (named : p.parts ≠ []) (h : t.makeFolder p = .ok t') :
    Added t t' ∧ t'.LeadsToFolder p := by
  unfold makeFolder at h
  cases found : t.locate p with
  | error e =>
      rw [found] at h
      cases h
  | ok l =>
      simp only [found] at h
      cases node : t.node l with
      | some n =>
          cases n with
          | file c mode =>
              rw [node] at h
              cases h
          | directory =>
              rw [node] at h
              injection h with h
              subst h
              exact ⟨.refl t, l, found, node⟩
      | none =>
          rw [node] at h
          injection h with h
          subst h
          have put : ∀ m, (t.put l .directory).node m
              = if m = l then some .directory else t.node m := fun _ => rfl
          have grown : FoldersIn t (t.put l .directory) := by
            refine ⟨rfl, fun m folder => ?_⟩
            rw [put]
            split
            next => rfl
            next => exact folder
          refine ⟨⟨grown, fun m => ?_, fun sound m there => ?_⟩, l, locate_mono grown found, ?_⟩
          · rw [put]
            by_cases same : m = l
            · subst same
              exact .inr ⟨node, if_pos rfl⟩
            · exact .inl (if_neg same)
          · -- the new folder is in one, since its path has led there
            by_cases same : m = l
            · subst same
              exact grown.folders _ (node_parent sound found named)
            · rw [put, if_neg same] at there
              exact grown.folders _ (sound m there)
          · rw [put, if_pos rfl]

/-- Making folders adds folders, up to the first that cannot be made. -/
theorem run_makeFolder_added {ps : List Path} (named : ∀ p ∈ ps, p.parts ≠ []) (t : FileTree) :
    Added t (t.run (ps.map .makeFolder)).2 := by
  induction ps generalizing t with
  | nil => exact .refl t
  | cons p ps ih =>
      rw [List.map_cons, run]
      cases made : (FileStep.makeFolder p).perform t with
      | error e => exact .refl t
      | ok t₁ =>
          have first : Added t t₁ := (makeFolder_added (named p List.mem_cons_self) made).1
          exact first.trans (ih (fun q hq => named q (List.mem_cons_of_mem _ hq)) t₁)

/-- **Making folders adds folders**, and all of them are there then. -/
theorem run_makeFolder {ps : List Path} (named : ∀ p ∈ ps, p.parts ≠ [])
    (h : t.run (ps.map .makeFolder) = (none, t')) :
    Added t t' ∧ ∀ p ∈ ps, t'.LeadsToFolder p := by
  induction ps generalizing t with
  | nil =>
      injection h with _ same
      subst same
      exact ⟨.refl t, fun p hp => absurd hp List.not_mem_nil⟩
  | cons p ps ih =>
      rw [List.map_cons] at h
      obtain ⟨t₁, first, rest⟩ := run_cons_eq_none.mp h
      obtain ⟨added, there⟩ := makeFolder_added (named p List.mem_cons_self) first
      obtain ⟨added', theres⟩ := ih (fun p hp => named p (List.mem_cons_of_mem _ hp)) rest
      refine ⟨added.trans added', fun q hq => ?_⟩
      rcases List.mem_cons.mp hq with rfl | hq
      · exact there.mono added'.grown
      · exact theres q hq

/-- Folders that are there need not be made. -/
theorem run_makeFolder_of_there {ps : List Path} (there : ∀ p ∈ ps, t.LeadsToFolder p) :
    t.run (ps.map .makeFolder) = (none, t) := by
  induction ps with
  | nil => rfl
  | cons p ps ih =>
      obtain ⟨l, found, folder⟩ := there p List.mem_cons_self
      have first : (FileStep.makeFolder p).perform t = .ok t := by
        show t.makeFolder p = .ok t
        unfold makeFolder
        simp only [found, folder]
      rw [List.map_cons]
      exact run_cons_eq_none.mpr ⟨t, first, ih fun p hp => there p (List.mem_cons_of_mem _ hp)⟩

end TunnelControl.FileTree
