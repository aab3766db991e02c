/-
  TunnelControl.Proofs.Storage.FileStore
  ──────────────────────────────────────
  **TEXTS IN A FILE ARE KEPT FAITHFULLY.**

  The file holds a table in order, which is read back from the text it was
  written as.  A file that could be saved once can be saved again, since the
  folders and places that saving needs stay.

    • `decode_encodePretty`  — the text of the file stands for its entries,
    • `Started`              — a tree on which the store begins,
    • `Kept`                 — what a tree holds after some calls,
    • `Kept.save_on`, `Kept.clear_on` — writing the file, and removing it,
    • `Kept.put_on`, `Kept.remove_on` — changing one text,
    • `file_obliging`        — the store in a file.
-/
import TunnelControl.Proofs.Json.Table
import TunnelControl.Proofs.Storage.Memory
import TunnelControl.Proofs.Storage.Writing

namespace TunnelControl

/-- A key without a text has none to be removed. -/
theorem Texts.assign_none {key : String} {m : Texts} (h : m key = .none) :
    m.assign key .none = m := by
  funext k
  by_cases same : key = k
  · subst same
    rw [Texts.assign_self, h]
  · exact Texts.assign_of_ne same _ m

namespace FileStore

open FileTree

variable {path : Path} {t₀ t : FileTree}

/-! ## §1. The text of the file. -/

theorem encodePretty_not_blank (entries : Entries String) :
    Text.isBlankText (codec.encodePretty entries) = false := by
  have head : ∀ ms : List (String × Json.Value), ∃ rest,
      (Json.Value.record ms).prettyChars 0 = Char.ofNat 0x7B :: rest := by
    intro ms
    cases ms with
    | nil => exact ⟨_, rfl⟩
    | cons m ms => exact ⟨_, rfl⟩
  obtain ⟨rest, starts⟩ := head (Json.sortedMembers (entries.map fun e => (e.1, .text e.2)))
  have text : codec.encodePretty entries = String.ofList (Char.ofNat 0x7B :: rest) := by
    rw [← starts]
    rfl
  rw [text, Text.isBlankText, String.toList_ofList, List.all_cons]
  rfl

/-- **The text that entries are written as stands for them.** -/
theorem decode_encodePretty {entries : Entries String} (ordered : entries.Ordered) :
    decode (codec.encodePretty entries) = .ok entries := by
  have read : codec.decode (codec.encodePretty entries) = .ok entries :=
    Json.Codec.table_decode_encodePretty Json.Codec.text_lawful (fun _ => rfl) ordered
  unfold decode
  rw [encodePretty_not_blank, read]
  rfl

theorem contents_of_text {raw : String} (h : t.readText path = .ok raw) :
    contents path t = decode raw := by
  unfold contents
  rw [h]

theorem contents_of_none (h : t.readText path = .error .notFound) : contents path t = .ok [] := by
  unfold contents
  rw [h]

/-- A file with readable contents is there or not; nothing else is in its way. -/
theorem readText_of_contents {entries : Entries String} (h : contents path t = .ok entries) :
    (∃ raw, t.readText path = .ok raw) ∨ t.readText path = .error .notFound ∧ entries = [] := by
  unfold contents at h
  split at h
  next raw read => exact .inl ⟨raw, read⟩
  next missing =>
    injection h with h
    exact .inr ⟨missing, h.symm⟩
  next => cases h

/-- What is found is at the location of the path. -/
theorem locate_of_find {l : Location} {n : Node} (found : t.find path = .ok (l, n)) :
    t.locate path = .ok l := by
  unfold find at found
  cases place : t.locate path with
  | error e =>
      rw [place] at found
      cases found
  | ok l' =>
      simp only [place] at found
      split at found
      next => cases found
      next =>
        split at found
        next => cases found
        next =>
          injection found with found
          injection found with found
          rw [found]
      next =>
        injection found with found
        injection found with found
        rw [found]

/-- A text is read from a file that the path leads to. -/
theorem file_of_readText {raw : String} (h : t.readText path = .ok raw) :
    ∃ l mode, t.find path = .ok (l, .file (.text raw) mode) ∧ t.locate path = .ok l := by
  unfold readText at h
  cases found : t.find path with
  | error e =>
      rw [found] at h
      cases h
  | ok r =>
      obtain ⟨l, n⟩ := r
      rw [found] at h
      cases n with
      | directory => cases h
      | file c mode =>
          cases c with
          | binary => cases h
          | text s =>
              injection h with h
              subst h
              exact ⟨l, mode, rfl, locate_of_find found⟩

theorem find_of_readText_none (h : t.readText path = .error .notFound) :
    t.find path = .error .notFound := by
  unfold readText at h
  split at h
  next e found =>
    injection h with h
    rw [found, h]
  next => cases h
  next => cases h
  next => cases h

/-! ## §2. Trees on which the store is used. -/

/-- A tree on which the store begins: nothing is at its path, and a file can
be saved there. -/
structure Started (path : Path) (t : FileTree) : Prop where
  inFolders : InFolders t
  nothing : t.readText path = .error .notFound
  canSave : CanSave path t

/-- A tree that holds texts, after calls of the store on `t₀`. -/
structure Kept (path : Path) (t₀ t : FileTree) (m : Texts) : Prop where
  /-- Nothing was saved so far, or the file has its place. -/
  ready : t = t₀ ∨ ∃ spare own, Place path t spare own
  contents : ∃ entries, FileStore.contents path t = .ok entries ∧ entries.Hold m
  /-- The only file that has come is that of the path. -/
  files : ∀ l c mode, t.node l = some (.file c mode) →
    t₀.node l = some (.file c mode) ∨ t.locate path = .ok l

/-- Nothing is at the path, and no file has come elsewhere. -/
structure Bare (path : Path) (t₀ t : FileTree) : Prop where
  nothing : t.readText path = .error .notFound
  files : ∀ l c mode, t.node l = some (.file c mode) → t₀.node l = some (.file c mode)

/-- A file that was saved can be saved. -/
theorem canSave_of_save {entries : Entries String} (h : ((save path entries).on t).1 = .ok ()) :
    CanSave path t := by
  refine ⟨codec.encodePretty entries, ?_⟩
  unfold save at h
  rw [Storing.on_act] at h
  cases saved : t.run (saving path (codec.encodePretty entries)) with
  | mk failure t' =>
      rw [saved] at h
      cases failure with
      | none => rfl
      | some e => cases h

theorem Started.kept (start : Started path t₀) : Kept path t₀ t₀ .none where
  ready := .inl rfl
  contents := ⟨[], contents_of_none start.nothing, Entries.ordered_nil, rfl⟩
  files := fun _ _ _ file => .inl file

/-- What has taken the file's place is kept. -/
theorem Kept.of_replaced {spare own : Location} (place : Place path t spare own)
    (files : ∀ l c mode, t.node l = some (.file c mode) →
      t₀.node l = some (.file c mode) ∨ t.locate path = .ok l)
    {entries : Entries String} {m : Texts} (hold : entries.Hold m) (mode : Nat) :
    Kept path t₀ (replaced t spare own (codec.encodePretty entries) mode) m where
  ready := .inr ⟨spare, own, place.replaced _ mode⟩
  contents := by
    refine ⟨entries, ?_, hold⟩
    rw [contents_of_text (place.readText_replaced _ mode), decode_encodePretty hold.ordered]
  files := by
    intro l c mode' file
    -- the path still leads to its own place
    have own' := (place.replaced (codec.encodePretty entries) mode).ownFound
    rcases file_of_replaced file with rfl | file
    · exact .inr own'
    · rcases files l c mode' file with before | found
      · exact .inl before
      · rw [place.ownFound] at found
        injection found with found
        exact .inr (found ▸ own')

/-- **Saving goes through**, and the entries are kept then. -/
theorem Kept.save_on (start : Started path t₀) {m m' : Texts} (kept : Kept path t₀ t m)
    {entries : Entries String} (hold : entries.Hold m') :
    ∃ t', (save path entries).on t = (.ok (), t') ∧ Kept path t₀ t' m' := by
  have saves {t' : FileTree} (saved : t.run (saving path (codec.encodePretty entries)) = (none, t')) :
      (save path entries).on t = (.ok (), t') := by
    unfold save
    rw [Storing.on_act, saved]
  rcases kept.ready with rfl | ⟨spare, own, place⟩
  · -- the folders are made before the file
    obtain ⟨t₁, spare, own, mode, added, place, saved⟩ :=
      run_saving start.inFolders start.canSave (codec.encodePretty entries)
    exact ⟨_, saves saved,
      .of_replaced place (fun l c mode file => .inl (added.file file)) hold mode⟩
  · obtain ⟨mode, saved⟩ := place.run_saving (codec.encodePretty entries)
    exact ⟨_, saves saved, .of_replaced place kept.files hold mode⟩

/-- Without the file of the path, the files of the beginning are left. -/
theorem Kept.dropped {spare own : Location} (place : Place path t spare own)
    (files : ∀ l c mode, t.node l = some (.file c mode) →
      t₀.node l = some (.file c mode) ∨ t.locate path = .ok l) :
    Kept path t₀ (t.drop own) .none ∧ Bare path t₀ (t.drop own) := by
  have nothing : (t.drop own).readText path = .error .notFound :=
    place.dropped.readText_none (if_pos rfl)
  have old : ∀ l c mode, (t.drop own).node l = some (.file c mode) →
      t₀.node l = some (.file c mode) := by
    intro l c mode file
    rw [node_drop] at file
    split at file
    next => cases file
    next other =>
      rcases files l c mode file with before | found
      · exact before
      · rw [place.ownFound] at found
        injection found with found
        exact absurd found.symm other
  refine ⟨⟨.inr ⟨spare, own, place.dropped⟩, ?_, fun l c mode file => .inl (old l c mode file)⟩,
    nothing, old⟩
  exact ⟨[], contents_of_none nothing, Entries.ordered_nil, rfl⟩

/-- Where nothing is at the path, no file has come at all. -/
theorem Kept.bare {m : Texts} (kept : Kept path t₀ t m)
    (nothing : t.readText path = .error .notFound) : Bare path t₀ t := by
  refine ⟨nothing, fun l c mode file => ?_⟩
  rcases kept.files l c mode file with before | located
  · exact before
  · rcases kept.ready with rfl | ⟨spare, own, place⟩
    · exact file
    · -- a file at the path would have been found
      have found := find_of_readText_none nothing
      rw [find_of_file located place.ownFile file] at found
      cases found

/-- **Removing the file goes through**, and nothing is left of it then. -/
theorem Kept.clear_on (start : Started path t₀) {m : Texts} (kept : Kept path t₀ t m) :
    ∃ t', (clear path).on t = (.ok (), t') ∧ Kept path t₀ t' .none ∧ Bare path t₀ t' := by
  obtain ⟨entries, contents, hold⟩ := kept.contents
  rcases readText_of_contents contents with ⟨raw, read⟩ | ⟨nothing, rfl⟩
  · rcases kept.ready with rfl | ⟨spare, own, place⟩
    · rw [start.nothing] at read
      cases read
    · obtain ⟨l, mode, found, located⟩ := file_of_readText read
      rw [place.ownFound] at located
      injection located with same
      subst same
      refine ⟨t.drop own, ?_, Kept.dropped place kept.files⟩
      unfold clear FileTree.remove
      rw [Storing.on_act, found]
  · refine ⟨t, ?_, ⟨kept.ready, ⟨[], contents, Entries.ordered_nil, rfl⟩, kept.files⟩,
      kept.bare nothing⟩
    unfold clear FileTree.remove
    rw [Storing.on_act, find_of_readText_none nothing]

theorem load_on {entries : Entries String} (h : contents path t = .ok entries) :
    (load path).on t = (.ok entries, t) := by
  rw [load, Storing.on_act, h]

/-- **Putting a text goes through.** -/
theorem Kept.put_on (start : Started path t₀) {m : Texts} (kept : Kept path t₀ t m)
    (key value : String) :
    ∃ t', (put path key value).on t = (.ok (), t') ∧ Kept path t₀ t' (m.assign key (some value)) := by
  obtain ⟨entries, read, hold⟩ := kept.contents
  unfold put
  rw [Storing.on_bind, load_on read]
  exact kept.save_on start (hold.insert key value)

/-- **Removing a text goes through.**  A file without the key is left as it
is. -/
theorem Kept.remove_on (start : Started path t₀) {m : Texts} (kept : Kept path t₀ t m)
    (key : String) :
    ∃ t', (remove path key).on t = (.ok (), t') ∧ Kept path t₀ t' (m.assign key .none) := by
  obtain ⟨entries, read, hold⟩ := kept.contents
  have text : entries.get? key = m key := congrFun hold.same key
  unfold remove
  rw [Storing.on_bind, load_on read]
  cases present : m key with
  | some value =>
      simp only [text, present, Option.isSome_some, if_true]
      exact kept.save_on start (hold.erase key)
  | none =>
      simp only [text, present, Option.isSome_none]
      refine ⟨t, rfl, ?_⟩
      rw [Texts.assign_none present]
      exact kept

end FileStore

/-! ## §3. The store. -/

/-- A table in a file, on a tree that was `t₀` at the beginning. -/
def Upkeep.file (path : Path) (t₀ : FileTree) : Upkeep FileTree where
  usable := fun _ => True
  holds := FileStore.Kept path t₀
  bare := FileStore.Bare path t₀

namespace SecretStore

open FileStore

/-- **The store in a file is faithful**, and refuses nothing, where its file
can be saved. -/
theorem file_obliging {path : Path} {t₀ : FileTree} (start : Started path t₀) :
    (file path).Obliging (.file path t₀) := by
  constructor
  case puts =>
    intro t m key value kept _
    obtain ⟨t', e, -⟩ := Kept.put_on start kept key value
    show ((FileStore.put path key value).on t).1 = _
    rw [e]
  constructor
  case get =>
    intro t m key kept _
    obtain ⟨entries, read, hold⟩ := kept.contents
    refine ⟨t, ?_, kept⟩
    show (Entries.get? key <$> load path).on t = _
    rw [Storing.on_map, load_on read, ← hold.same]
    rfl
  case put =>
    intro t m key value kept _
    exact .inl (Kept.put_on start kept key value)
  case remove =>
    intro t m key kept _
    exact Kept.remove_on start kept key
  case keys =>
    intro t m kept
    obtain ⟨entries, read, hold⟩ := kept.contents
    refine ⟨entries.keys, t, ?_, kept, Entries.nodup_keys hold.ordered, hold.mem_keys_iff⟩
    show (Entries.keys <$> load path).on t = _
    rw [Storing.on_map, load_on read]
    rfl
  case clear =>
    intro t m kept
    exact kept.clear_on start

end SecretStore

end TunnelControl
