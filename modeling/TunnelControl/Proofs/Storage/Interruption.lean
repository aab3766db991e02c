/-
  TunnelControl.Proofs.Storage.Interruption
  ─────────────────────────────────────────
  **AN INTERRUPTED CHANGE LEAVES THE OLD FILE OR THE NEW ONE.**

  While the neighbour is written, nothing touches the file, whatever becomes
  of the neighbour; then one move puts the whole new text in its place.  That
  holds of every file but one whose own name is that of its neighbour: this
  one is emptied and written in place.

    • `follow_append`, `place_temporary_ne` — the neighbour is another place,
    • `Untouched`                     — what holds while the neighbour is written,
    • `Stops.of_run`, `stops_run`     — runs that end and runs that are stopped,
    • `stops_folders`, `stops_writing` — where saving may stop,
    • `Interrupted`, `interrupted_changes_leave_old_or_new` — the main result.
-/
import TunnelControl.Proofs.Storage.Saving
import TunnelControl.Storage.Interruption

namespace TunnelControl

namespace FileTree

variable {t t' t₁ : FileTree} {p path : Path}

/-! ## §1. The place of the neighbour. -/

theorem follow_append (l : Location) (front back : List String) :
    follow l (front ++ back) = follow (follow l front) back := by
  induction front generalizing l with
  | nil => rfl
  | cons part front ih => exact ih _

/-- A name with the extension of a neighbour is not the way up. -/
theorem temporary_name_ne (name : String) : Path.stem name ++ ".tmp" ≠ ".." := by
  intro same
  have length := congrArg String.length same
  rw [String.length_append] at length
  have four : ".tmp".length = 4 := rfl
  have two : "..".length = 2 := rfl
  omega

/-- **The neighbour of a file is in another place**, unless both have one
name. -/
theorem place_temporary_ne {name : String} (last : p.parts.getLast? = some name)
    (down : name ≠ "..") (other : Path.stem name ++ ".tmp" ≠ name) :
    t.place p.temporary ≠ t.place p := by
  obtain ⟨front, split⟩ := List.getLast?_eq_some_iff.mp last
  have own : t.place p = follow (if p.absolute then [] else t.here) front ++ [name] := by
    rw [place, split, follow_append]
    simp [follow, down]
  have spare : t.place p.temporary
      = follow (if p.absolute then [] else t.here) front ++ [Path.stem name ++ ".tmp"] := by
    have parts : p.temporary.parts = front ++ [Path.stem name ++ ".tmp"] := by
      simp [Path.temporary, down, split]
    have absolute : p.temporary.absolute = p.absolute := by
      simp [Path.temporary, last, down]
    rw [place, parts, absolute, follow_append]
    simp [follow, temporary_name_ne]
  rw [own, spare]
  intro same
  have names := List.append_cancel_left same
  exact other (List.head_eq_of_cons_eq names)

/-- A file whose neighbour can be written has a name. -/
theorem name_of_free (sound : InFolders t) (file : p.folder = false) {l : Location}
    (found : t.locate p.temporary = .ok l) (free : t.node l ≠ some .directory)
    (parent : t.node l.dropLast = some .directory) :
    ∃ name, p.parts.getLast? = some name ∧ name ≠ ".." := by
  cases last : p.parts.getLast? with
  | none =>
      -- a path without names is empty, or that of the root, which is a folder
      have parts : p.parts = [] := List.getLast?_eq_none_iff.mp last
      have same : p.temporary = p := by simp [Path.temporary, last]
      rw [same, locate] at found
      split at found
      next => cases found
      next named =>
        have absolute : p.absolute = true := by simpa [Path.isEmpty, parts, file] using named
        rw [absolute, parts, if_pos rfl, walk] at found
        injection found with found
        subst found
        exact absurd parent free
  | some name =>
      refine ⟨name, rfl, fun up => ?_⟩
      -- the way up leads from a folder to a folder
      obtain ⟨front, split⟩ := List.getLast?_eq_some_iff.mp last
      have same : p.temporary = p := by simp [Path.temporary, up, last]
      rw [same, locate] at found
      split at found
      next => cases found
      next =>
        rw [split] at found
        obtain ⟨k, -, folder, rfl⟩ := walk_concat_eq_ok.mp found
        rw [if_pos up] at free
        exact free (sound.folder folder)

/-- A file that is its own neighbour is written in its own place. -/
theorem temporary_of_isOwnNeighbour (own : p.isOwnNeighbour = true) : p.temporary = p := by
  unfold Path.isOwnNeighbour at own
  split at own
  next name folder last =>
    simp only [Bool.and_eq_true, decide_eq_true_eq] at own
    obtain ⟨front, split⟩ := List.getLast?_eq_some_iff.mp last
    obtain ⟨absolute, parts, isFolder⟩ := p
    simp only at folder split last
    subst folder split
    simp [Path.temporary, own.1, own.2]
  next => cases own

/-! ## §2. The neighbour is written. -/

/-- **Where the neighbour of a file can be written, the file is not touched.** -/
theorem held_put_temporary (sound : InFolders t) (other : p.isOwnNeighbour = false) {l : Location}
    (found : t.locate p.temporary = .ok l) (free : t.node l ≠ some .directory)
    (parent : t.node l.dropLast = some .directory) (c : Content) (mode : Nat) :
    (t.put l (.file c mode)).held p = t.held p := by
  cases file : p.folder with
  | true => rw [held_of_folder file, held_of_folder file]
  | false =>
      obtain ⟨name, last, down⟩ := name_of_free sound file found free parent
      have names : Path.stem name ++ ".tmp" ≠ name := by
        simpa [Path.isOwnNeighbour, file, last, down] using other
      have away : t.place p ≠ l := by
        rw [locate_eq_place found]
        exact (place_temporary_ne last down names).symm
      unfold held
      rw [place_put, node_put, if_neg away]

/-- What holds while the neighbour of a file is written. -/
structure Untouched (path : Path) (t t' : FileTree) : Prop where
  /-- The file holds what it held. -/
  held : t'.held path = t.held path
  sound : InFolders t'

theorem Untouched.trans (h : Untouched path t t₁) (h' : Untouched path t₁ t') :
    Untouched path t t' := ⟨h'.held.trans h.held, h'.sound⟩

theorem inFolders_put (sound : InFolders t) {l : Location} (free : t.node l ≠ some .directory)
    (parent : t.node l.dropLast = some .directory) (c : Content) (mode : Nat) :
    InFolders (t.put l (.file c mode)) := by
  have grown := foldersIn_put free (.file c mode)
  intro m there
  by_cases same : m = l
  · rw [same]
    exact grown.folders _ parent
  · rw [node_put, if_neg same] at there
    exact grown.folders _ (sound m there)

theorem Untouched.put (sound : InFolders t) (other : path.isOwnNeighbour = false) {l : Location}
    (found : t.locate path.temporary = .ok l) (free : t.node l ≠ some .directory)
    (parent : t.node l.dropLast = some .directory) (c : Content) (mode : Nat) :
    Untouched path t (t.put l (.file c mode)) :=
  ⟨held_put_temporary sound other found free parent c mode,
    inFolders_put sound free parent c mode⟩

/-- A step that writes the neighbour may leave anything of the neighbour. -/
theorem Untouched.leaves (sound : InFolders t) (other : path.isOwnNeighbour = false)
    {step : FileStep} (works : step.writesTo = some path.temporary) (leaves : step.Leaves t t') :
    Untouched path t t' := by
  cases leaves with
  | nothing => exact ⟨rfl, sound⟩
  | written path' l c mode works' found _ free parent =>
      rw [works] at works'
      injection works' with same
      subst same
      exact .put sound other found free parent c mode

/-- A step that writes no file leaves nothing when it does not go through. -/
theorem eq_of_leaves {step : FileStep} (works : step.writesTo = none)
    (leaves : step.Leaves t t') : t' = t := by
  cases leaves with
  | nothing => rfl
  | written path' _ _ _ works' =>
      rw [works] at works'
      cases works'

/-! ## §3. Where steps may stop. -/

/-- A run that ends by itself is one of those. -/
theorem stops_run (steps : List FileStep) (t : FileTree) : t.Stops steps (t.run steps).2 := by
  induction steps generalizing t with
  | nil => exact .done
  | cons step rest ih =>
      rw [run]
      cases through : step.perform t with
      | error e => exact .here .nothing
      | ok t₁ => exact .later through (ih t₁)

/-- Steps that have gone through are followed by those that come to a stop. -/
theorem Stops.of_run {front back : List FileStep} (through : t.run front = (none, t₁))
    (stops : t₁.Stops back t') : t.Stops (front ++ back) t' := by
  induction front generalizing t with
  | nil =>
      injection through with _ same
      subst same
      exact stops
  | cons step front ih =>
      obtain ⟨t₂, first, rest⟩ := run_cons_eq_none.mp through
      exact .later first (ih rest)

/-- **Making folders adds folders, wherever it stops.** -/
theorem stops_folders {ps : List Path} (named : ∀ p ∈ ps, p.parts ≠ []) {rest : List FileStep}
    (stops : t.Stops (ps.map .makeFolder ++ rest) t') :
    ∃ t₁, Added t t₁ ∧ (t' = t₁ ∨ t₁.Stops rest t') := by
  induction ps generalizing t with
  | nil => exact ⟨t, .refl t, .inr stops⟩
  | cons p ps ih =>
      rw [List.map_cons, List.cons_append] at stops
      cases stops with
      | here leaves => exact ⟨t, .refl t, .inl (eq_of_leaves rfl leaves)⟩
      | later through stops =>
          have first := (makeFolder_added (named p List.mem_cons_self) through).1
          obtain ⟨t₁, added, ends⟩ := ih (fun q hq => named q (List.mem_cons_of_mem _ hq)) stops
          exact ⟨t₁, first.trans added, ends⟩

end FileTree

namespace FileStore

open FileTree

variable {path : Path} {t t' : FileTree} {text : String}

/-- **Wherever the steps that write a file stop, the file holds what it held or
the new text.** -/
theorem stops_writing (sound : InFolders t) (other : path.isOwnNeighbour = false)
    (stops : t.Stops (writing path text) t') :
    t'.held path = t.held path ∨ t'.readText path = .ok text := by
  cases stops with
  | here leaves => exact .inl (Untouched.leaves sound other rfl leaves).held
  | later opened stops =>
      obtain ⟨spare, mode, found, file, free, parent, rfl⟩ := free_of_openEmpty sound opened
      have grown (s : String) : FoldersIn t (t.put spare (.file (.text s) mode)) :=
        foldersIn_put free _
      have there (s : String) : (t.put spare (.file (.text s) mode)).node spare
          = some (.file (.text s) mode) := if_pos rfl
      have untouched (s : String) : Untouched path t (t.put spare (.file (.text s) mode)) :=
        .put sound other found free parent _ mode
      cases stops with
      | here leaves => exact .inl ((untouched "").trans (.leaves (untouched "").sound other rfl leaves)).held
      | later appended stops =>
          have whole : (t.put spare (.file (.text "") mode)).append path.temporary text
              = .ok (t.put spare (.file (.text text) mode)) := by
            rw [append_of_file (locate_mono (grown "") found) file (there ""), put_put,
              String.empty_append]
          obtain rfl := Except.ok.inj (whole.symm.trans appended)
          cases stops with
          | here leaves =>
              exact .inl ((untouched text).trans (.leaves (untouched text).sound other rfl leaves)).held
          | later synced stops =>
              obtain rfl := Except.ok.inj synced
              cases stops with
              | here leaves =>
                  rw [eq_of_leaves rfl leaves]
                  exact .inl (untouched text).held
              | later moved stops =>
                  -- the move is the last step
                  cases stops
                  rcases rename_cases (locate_mono (grown text) found) file (there text) with
                    ⟨t'', renamed, read⟩ | ⟨e, renamed, -⟩
                  · obtain rfl := Except.ok.inj (renamed.symm.trans moved)
                    exact .inr read
                  · cases renamed.symm.trans moved

/-- **Wherever saving stops, the file holds what it held or the new text.** -/
theorem stops_saving (sound : InFolders t) (other : path.isOwnNeighbour = false)
    (stops : t.Stops (saving path text) t') :
    t'.held path = t.held path ∨ t'.readText path = .ok text := by
  rw [saving_eq] at stops
  obtain ⟨t₁, added, ends⟩ := stops_folders (fun p hp => parts_ne_nil_of_mem_folders hp) stops
  rcases ends with rfl | stops
  · exact .inl added.held
  · rw [← added.held]
    exact stops_writing (added.inFolders sound) other stops

/-- **A file that is its own neighbour is empty for a moment.** -/
theorem emptied_of_isOwnNeighbour (sound : InFolders t) (own : path.isOwnNeighbour = true)
    (can : CanSave path t) (text : String) :
    ∃ t', t.Stops (saving path text) t' ∧ t'.readText path = .ok "" := by
  obtain ⟨t₁, spare, _, made, -, place⟩ := exists_place sound can
  obtain ⟨mode, opened⟩ := openEmpty_of_free place.spareFound place.spareFile place.spareFree
    place.parent 0o600
  refine ⟨t₁.put spare (.file (.text "") mode), ?_, ?_⟩
  · rw [saving_eq]
    exact Stops.of_run made (.later opened (.here .nothing))
  · have found := locate_mono (foldersIn_put place.spareFree (.file (.text "") mode)) place.spareFound
    have file := place.spareFile
    rw [temporary_of_isOwnNeighbour own] at found file
    unfold readText
    rw [find_of_file found file (if_pos rfl)]

/-! ## §4. Changes of the texts. -/

/-- A change reads the file and then writes it, if there is something to
write. -/
theorem Update.run_eq (u : Update) (path : Path) :
    u.run path = load path >>= fun entries =>
      match u.change entries with
      | some changed => save path changed
      | none => pure () := by
  cases u with
  | put key value => rfl
  | remove key =>
      show FileStore.remove path key = _
      unfold FileStore.remove
      congr 1
      funext entries
      simp only [Update.change]
      cases entries.get? key with
      | none => rfl
      | some value => rfl

/-- A change that ends by itself, well or not, is one of those that stop. -/
theorem Update.stops_run (u : Update) (path : Path) (t : FileTree) :
    u.Stops path t ((u.run path).on t).2 := by
  rw [u.run_eq, Storing.on_bind]
  cases read : contents path t with
  | error e =>
      rw [load, Storing.on_act, read]
      exact .before
  | ok entries =>
      rw [load_on read]
      simp only []
      cases change : u.change entries with
      | none => exact .before
      | some changed =>
          have same : ((save path changed).on t).2
              = (t.run (saving path (codec.encodePretty changed))).2 := by
            unfold save
            rw [Storing.on_act]
            rcases t.run (saving path (codec.encodePretty changed)) with ⟨e | e, t'⟩ <;> rfl
          simp only [same]
          exact .saving read change (FileTree.stops_run _ t)

/-! ## §5. The main result. -/

/-- The file holds exactly what it held, or exactly all texts with the change. -/
def OldOrNew (path : Path) (t : FileTree) (u : Update) (t' : FileTree) : Prop :=
  t'.held path = t.held path
    ∨ ∃ entries changed, contents path t = .ok entries ∧ u.change entries = some changed
      ∧ t'.readText path = .ok (codec.encodePretty changed)

/-- A file with a text that is found empty holds neither. -/
theorem not_oldOrNew_of_empty {u : Update} {raw : String} (before : t.readText path = .ok raw)
    (text : raw ≠ "") (after : t'.readText path = .ok "") : ¬ OldOrNew path t u t' := by
  rintro (same | ⟨entries, changed, -, -, read⟩)
  · rw [held_of_readText after, held_of_readText before] at same
    injection same with same
    injection same with same
    exact text same.symm
  · -- what is written is never blank
    have blank := encodePretty_not_blank changed
    rw [← Except.ok.inj (after.symm.trans read)] at blank
    cases blank

/-- What an interrupted change does to a file. -/
structure Interrupted (path : Path) (t : FileTree) (u : Update) : Prop where
  /-- Wherever the change stops, and whatever becomes of the step it stops at,
  the file holds what it held or all texts with the change. -/
  oldOrNew : path.isOwnNeighbour = false → ∀ t', u.Stops path t t' → OldOrNew path t u t'
  /-- A change that fails or goes through is one of these. -/
  ends : u.Stops path t ((u.run path).on t).2
  /-- A file that is its own neighbour is emptied before it is written. -/
  emptied : path.isOwnNeighbour = true → CanSave path t → ∀ entries changed,
    contents path t = .ok entries → u.change entries = some changed →
      ∃ t', u.Stops path t t' ∧ t'.readText path = .ok ""

/-- **Whatever step of a change fails or is cut short, the file holds the old
texts or the new ones**, unless its name is that of its neighbour. -/
theorem interrupted_changes_leave_old_or_new (sound : InFolders t) (path : Path) (u : Update) :
    Interrupted path t u where
  oldOrNew := by
    intro other t' stops
    cases stops with
    | before => exact .inl rfl
    | saving read change stops =>
        rcases stops_saving sound other stops with same | new
        · exact .inl same
        · exact .inr ⟨_, _, read, change, new⟩
  ends := u.stops_run path t
  emptied := by
    intro own can entries changed read change
    obtain ⟨t', stops, empty⟩ := emptied_of_isOwnNeighbour sound own can (codec.encodePretty changed)
    exact ⟨t', .saving read change stops, empty⟩

/-- A folder with one file in it, which holds one text. -/
def oneText (name : String) : FileTree :=
  (onlyFolders ["home"]).put ["home", name]
    (.file (.text (codec.encodePretty [("orgId", "org_1")])) 0o600)

theorem inFolders_oneText (name : String) : InFolders (oneText name) :=
  inFolders_put (inFolders_onlyFolders ["home"]) (by simp [onlyFolders]) (by rfl) _ _

/-- A change of a file by the name that it has unless another is chosen. -/
theorem interrupted_change_of_settings :
    InFolders (oneText "settings.json")
      ∧ Interrupted (Path.ofText "settings.json") (oneText "settings.json") (.put "orgId" "org_2") :=
  ⟨inFolders_oneText _, interrupted_changes_leave_old_or_new (inFolders_oneText _) _ _⟩

/-- A file with the extension of neighbours loses its texts when a change of
them stops before they are written again. -/
theorem interrupted_change_loses_texts :
    let path := Path.ofText "settings.tmp"
    let t := oneText "settings.tmp"
    let u := Update.put "orgId" "org_2"
    InFolders t ∧ contents path t = .ok [("orgId", "org_1")]
      ∧ ∃ t', u.Stops path t t' ∧ t'.readText path = .ok "" ∧ ¬ OldOrNew path t u t' := by
  intro path t u
  have sound : InFolders t := inFolders_oneText _
  have before : t.readText path = .ok (codec.encodePretty [("orgId", "org_1")]) := rfl
  have read : contents path t = .ok [("orgId", "org_1")] :=
    (contents_of_text before).trans (decode_encodePretty (List.pairwise_singleton _ _))
  have can : CanSave path t := ⟨"", rfl⟩
  obtain ⟨t', stops, empty⟩ := emptied_of_isOwnNeighbour sound (by decide) can
    (codec.encodePretty [("orgId", "org_2")])
  have text : codec.encodePretty [("orgId", "org_1")] ≠ "" := by
    intro none
    have blank := encodePretty_not_blank [("orgId", "org_1")]
    rw [none] at blank
    cases blank
  exact ⟨sound, read, t', .saving read rfl stops, empty, not_oldOrNew_of_empty before text empty⟩

end FileStore

end TunnelControl
