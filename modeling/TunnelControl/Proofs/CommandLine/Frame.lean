/-
  TunnelControl.Proofs.CommandLine.Frame
  ──────────────────────────────────────
  **A RUN CHANGES ONE SETTING OR NOTHING.**

  The file of the settings may hold anything: nothing, blanks, a text that
  cannot be read, or other texts beside the settings.  A run that fails leaves
  it as it is.  A run that goes through changes the one setting that it was
  asked to change, and the other texts of the file stay.

    • `Ran.held_of_error`           — a failure leaves the file,
    • `ShownAs`, `shownAs_recordAt` — what a later process prints,
    • `OneChange`, `Changes.goes_through` — what a run that goes through does,
    • `ChangesOneOrNothing`, `edits_change_one_setting`.
-/
import TunnelControl.Proofs.CommandLine.Runs

namespace TunnelControl.CommandLine

variable {path : Path} {terminal : Terminal} {m m' : Machine} {command : SettingsCommand}
  {f : Setting} {change : Settings → Except Rejected Settings} {s x : Settings}

/-! ## §1. What a failure leaves. -/

/-- **A command that fails leaves the file as it is.** -/
theorem Ran.held_of_error {e : Failure} (ran : Ran path terminal m command (.error e) m') :
    m'.files.held path = m.files.held path := by
  cases ran with
  | looked => rfl
  | failed e same => exact same

/-! ## §2. What a later process prints. -/

/-- The process prints the settings with nothing hidden. -/
structure Reveals (path : Path) (around : Surroundings) (words : List String) (m : Machine) : Prop where
  kept : KeptIn path around words m
  asked : ∃ i config, prepare around words m.files = .ok (i, config)
    ∧ i.command = .onSettings (.show true)

/-- Every process that prints the settings with nothing hidden prints these. -/
def ShownAs (path : Path) (m : Machine) (s : Settings) : Prop :=
  ∀ around words, Reveals path around words m →
    run around words m
      = (.ok (printed true (.record (Setting.all.map fun g => (g.wireName, s.entry g)))), m)

theorem shownAs_recordAt (path : Path) (m : Machine) : ShownAs path m (recordAt path m) := by
  rintro around words ⟨kept, i, config, prepared, asked⟩
  rw [run_of_prepare kept prepared asked, load_onFiles, perform, SettingsStore.reload, load_onFiles,
    ← Settings.toValue_eq]

/-! ## §3. One run. -/

/-- One setting has changed from one storage to the other, and nothing else
that the file holds. -/
structure OneChange (path : Path) (f : Setting) (change : Settings → Except Rejected Settings)
    (m m' : Machine) : Prop where
  accepted : change (recordAt path m) = .ok (recordAt path m')
  shownBefore : ShownAs path m (recordAt path m)
  shownAfter : ShownAs path m' (recordAt path m')
  otherSettings : ∀ g ≠ f, (recordAt path m').entry g = (recordAt path m).entry g
  otherTexts : ∀ key ≠ SettingsStore.key,
    (((SecretStore.file path).get key).on m'.files).1
      = (((SecretStore.file path).get key).on m.files).1

theorem Ran.oneChange {out : Output} (ran : Ran path terminal m command (.ok out) m')
    (changes : Changes terminal command f change) : OneChange path f change m m' where
  accepted := (ran.change_of_ok changes).1
  shownBefore := shownAs_recordAt path m
  shownAfter := shownAs_recordAt path m'
  otherSettings := fun _ other => changes.entry (ran.change_of_ok changes).1 other
  otherTexts := by
    intro key other
    obtain ⟨entries, before, after⟩ := (ran.change_of_ok changes).2
    rw [SecretStore.file_get_on, SecretStore.file_get_on, before, after]
    show (Except.ok _ : Except StorageError _) = .ok _
    rw [Entries.get?_insert, if_neg (Ne.symm other)]

/-- A command that changes a setting does nothing else. -/
theorem Changes.perform_eq {σ : Type} {backend : SecretStore σ}
    (changes : Changes terminal command f change) (s : SettingsStore σ) :
    perform terminal backend command s = updated backend f change s := by
  cases changes with
  | typed f raw => rfl
  | given f value => rfl
  | asked f answer => simp only [perform, answer]

/-- **An accepted change goes through** where the file can be read and saved. -/
theorem Changes.goes_through (changes : Changes terminal command f change)
    (accepted : change (recordAt path m) = .ok x) {entries : Entries String}
    (read : FileStore.contents path m.files = .ok entries) (sound : m.files.InFolders)
    (can : FileStore.CanSave path m.files) :
    ∃ out, (perform terminal (.onFiles path) command (.load (.onFiles path) m)).1 = .ok out := by
  have put : (((SecretStore.onFiles path).put SettingsStore.key x.json).on m).1 = .ok () :=
    FileStore.put_of_canSave sound can read SettingsStore.key x.json
  rw [load_onFiles, changes.perform_eq, updated,
    SettingsStore.update_on (s := ⟨m, recordAt path m⟩) accepted, Storing.on_map,
    SettingsStore.persist_on]
  simp only [put]
  exact ⟨_, rfl⟩

/-- What a run with its settings in a file can do to the file. -/
structure ChangesOneOrNothing (path : Path) (around : Surroundings) (words : List String)
    (m : Machine) : Prop where
  /-- A run that fails leaves the file, whatever it was asked to do. -/
  failed : ∀ e, (run around words m).1 = .error e →
    (run around words m).2.files.held path = m.files.held path
  /-- A run that changes a setting changes nothing else. -/
  changed : ∀ i config command f change out, prepare around words m.files = .ok (i, config) →
    i.command = .onSettings command → Changes around.terminal command f change →
    (run around words m).1 = .ok out → OneChange path f change m (run around words m).2
  /-- And an accepted change goes through where the file can be read and saved. -/
  through : ∀ i config command f change x entries, prepare around words m.files = .ok (i, config) →
    i.command = .onSettings command → Changes around.terminal command f change →
    change (recordAt path m) = .ok x → FileStore.contents path m.files = .ok entries →
    m.files.InFolders → FileStore.CanSave path m.files → ∃ out, (run around words m).1 = .ok out

/-- **A run changes one setting or nothing**, whatever the file holds before. -/
theorem edits_change_one_setting {around : Surroundings} {words : List String}
    (kept : KeptIn path around words m) : ChangesOneOrNothing path around words m where
  failed := by
    intro e failed
    rcases run_cases kept with same | ⟨i, config, command, -, -, ran⟩
    · rw [same]
    · rw [failed] at ran
      exact ran.held_of_error
  changed := by
    intro i config command f change out prepared asked changes done
    have ran := ran_run kept prepared asked
    rw [done] at ran
    exact ran.oneChange changes
  through := by
    intro i config command f change x entries prepared asked changes accepted read sound can
    rw [run_of_prepare kept prepared asked]
    exact changes.goes_through accepted read sound can

/-- A typed MTU is kept in a file that was not there before. -/
theorem typed_mtu_changes_the_mtu :
    let around := Surroundings.bare
    let words := ["--settings-file", "s", "settings", "set", "mtu", " 1300 "]
    let m : Machine := { files := FileTree.onlyFolders ["home"] }
    let path := Path.ofText "s"
    KeptIn path around words m ∧ OneChange path .mtu (Settings.enter .mtu " 1300 ") m (run around words m).2
      ∧ (recordAt path (run around words m).2).mtu = 1300 := by
  intro around words m path
  obtain ⟨config, prepared⟩ : ∃ config, prepare around words m.files
      = .ok (⟨none, some "s", 0, false, .onSettings (.set .mtu " 1300 ")⟩, config) := ⟨_, rfl⟩
  have kept : KeptIn path around words m := keptIn_of_prepare prepared rfl
  have done : (run around words m).1 = .ok { stderr := "mtu updated\n" } := rfl
  have one := (edits_change_one_setting kept).changed _ _ _ _ _ _ prepared rfl
    (.typed .mtu " 1300 ") done
  have entered : Settings.enter .mtu " 1300 " (recordAt path m) = .ok { mtu := 1300 } := rfl
  have same : recordAt path (run around words m).2 = { mtu := 1300 } := by
    injection one.accepted.symm.trans entered
  exact ⟨kept, one, by rw [same]⟩

end TunnelControl.CommandLine
