/-
  TunnelControl.Proofs.CommandLine.Runs
  ─────────────────────────────────────
  **WHAT A RUN DOES TO THE FILE OF THE SETTINGS.**

  A run takes up the settings from its file, and at its end the file holds
  what it held, or it is gone, or one setting has changed and all other texts
  are there.  Every property of a row of runs follows from these cases.

    • `recordAt`, `load_onFiles` — the settings that a run takes up,
    • `Changes`, `Changes.entry` — the change that a command asks for,
    • `Ran`, `ran_perform`       — all that a command can do,
    • `mem_credentials_of_read`  — which settings are taken as they are,
    • `KeptIn`, `ran_run`, `run_cases` — a run whose settings are in a file.
-/
import TunnelControl.CommandLine.Run
import TunnelControl.Proofs.Settings.Edit
import TunnelControl.Proofs.Storage.Saving
import TunnelControl.Proofs.Storage.SettingsHistory
import TunnelControl.Storage.Machine

namespace TunnelControl

/-! ## §1. The settings that a run takes up. -/

namespace SecretStore

variable {path : Path}

theorem file_get_on (key : String) (t : FileTree) :
    ((file path).get key).on t = ((FileStore.contents path t).map (Entries.get? key), t) := by
  show (Entries.get? key <$> FileStore.load path).on t = _
  rw [Storing.on_map]
  rfl

theorem onFiles_get_on (key : String) (m : Machine) :
    ((onFiles path).get key).on m = ((FileStore.contents path m.files).map (Entries.get? key), m) := by
  show ((((file path).get key).on m.files).1, { m with files := (((file path).get key).on m.files).2 }) = _
  rw [file_get_on]

end SecretStore

namespace CommandLine

open SecretStore

variable {path : Path} {m m' : Machine} {entries : Entries String} {terminal : Terminal}
  {command : SettingsCommand} {f : Setting} {change : Settings → Except Rejected Settings}
  {s x : Settings}

/-- The settings that a run takes up from a file. -/
def recordAt (path : Path) (m : Machine) : Settings := (SettingsStore.load (.onFiles path) m).current

theorem load_onFiles_eq (path : Path) (m : Machine) :
    SettingsStore.load (.onFiles path) m = ⟨m, match FileStore.contents path m.files with
      | .ok entries => SettingsStore.ofStored (entries.get? SettingsStore.key)
      | .error _ => .default⟩ := by
  unfold SettingsStore.load SettingsStore.readFrom
  rw [onFiles_get_on]
  cases FileStore.contents path m.files with
  | ok entries => rfl
  | error e => rfl

theorem recordAt_eq (path : Path) (m : Machine) :
    recordAt path m = match FileStore.contents path m.files with
      | .ok entries => SettingsStore.ofStored (entries.get? SettingsStore.key)
      | .error _ => .default :=
  congrArg (·.current) (load_onFiles_eq path m)

/-- **Taking up the settings changes nothing.** -/
theorem load_onFiles (path : Path) (m : Machine) :
    SettingsStore.load (.onFiles path) m = ⟨m, recordAt path m⟩ := by
  rw [recordAt_eq, load_onFiles_eq]

theorem recordAt_of_contents (read : FileStore.contents path m.files = .ok entries) :
    recordAt path m = SettingsStore.ofStored (entries.get? SettingsStore.key) := by
  rw [recordAt_eq]
  simp only [read]

/-- **Whatever the file holds, the MTU that is taken up can be used.** -/
theorem recordAt_mtu (path : Path) (m : Machine) :
    mtuInRange (recordAt path m).mtu.toNat = true := by
  rw [ConnectionConfig.mtuInRange_iff, recordAt_eq]
  split
  next => exact SettingsStore.ofStored_mtu _
  next => decide

/-- Settings with a usable MTU are taken up as they were put. -/
theorem recordAt_of_put (usable : mtuInRange x.mtu.toNat = true)
    (read : FileStore.contents path m.files = .ok (entries.insert SettingsStore.key x.json)) :
    recordAt path m = x := by
  have stored : SettingsStore.ofStored (some x.json) = x.withUsableMtu :=
    SettingsStore.ofStored_of_decode (Settings.codec_lawful.decode_encode x)
  rw [recordAt_of_contents read, Entries.get?_insert, if_pos rfl, stored,
    ← SettingsStore.repaired_eq, SettingsStore.repaired, if_pos usable]

/-! ## §2. The change that a command asks for. -/

/-- The command changes a setting in some way. -/
inductive Changes (terminal : Terminal) :
    SettingsCommand → Setting → (Settings → Except Rejected Settings) → Prop where
  | typed (f : Setting) (raw : String) : Changes terminal (.set f raw) f (Settings.enter f raw)
  | given (f : Setting) (value : String) :
      Changes terminal (.setSecret f (some value)) f fun s => .ok (s.setText f value)
  /-- The value comes from the terminal. -/
  | asked (f : Setting) {value : String} (answer : askFor terminal f = .ok value) :
      Changes terminal (.setSecret f none) f fun s => .ok (s.setText f value)

/-- A command asks for one change of one setting. -/
theorem Changes.unique {g : Setting} {other : Settings → Except Rejected Settings}
    (changes : Changes terminal command f change) (changes' : Changes terminal command g other) :
    f = g ∧ change = other := by
  cases changes with
  | typed f raw =>
      cases changes'
      exact ⟨rfl, rfl⟩
  | given f value =>
      cases changes'
      exact ⟨rfl, rfl⟩
  | asked f answer =>
      cases changes' with
      | asked f answer' =>
          injection answer.symm.trans answer' with same
          subst same
          exact ⟨rfl, rfl⟩

/-- **A change leaves the other settings.** -/
theorem Changes.entry (changes : Changes terminal command f change) (accepted : change s = .ok x)
    {g : Setting} (other : g ≠ f) : x.entry g = s.entry g := by
  cases changes with
  | typed f raw => exact (Settings.entered_of_enter accepted).entry other
  | given f value =>
      injection accepted with accepted
      exact accepted ▸ Settings.entry_setText other value s
  | asked f answer =>
      injection accepted with accepted
      exact accepted ▸ Settings.entry_setText other _ s

/-- Settings that write the same number have the same MTU. -/
theorem mtu_of_entry (same : x.entry .mtu = s.entry .mtu) : x.mtu.toNat = s.mtu.toNat := by
  injection same with same
  exact Int.ofNat.inj same

/-- A change leaves an MTU that can be used. -/
theorem Changes.mtu (changes : Changes terminal command f change) (accepted : change s = .ok x)
    (usable : mtuInRange s.mtu.toNat = true) : mtuInRange x.mtu.toNat = true := by
  by_cases own : .mtu = f
  · -- a credential is never the MTU, and a typed MTU is checked
    subst own
    cases changes with
    | given f value =>
        injection accepted with accepted
        exact accepted ▸ usable
    | asked f answer =>
        injection accepted with accepted
        exact accepted ▸ usable
    | typed f raw =>
        cases Settings.entered_of_enter accepted with
        | text plain => exact absurd plain (by decide)
        | mtu n inside => exact inside
        | flag b => exact usable
        | time other _ => cases other
  · rw [mtu_of_entry (changes.entry accepted own)]
    exact usable

/-- The command only looks at the settings. -/
inductive Looks : SettingsCommand → Prop where
  | «show» (reveal : Bool) : Looks (.show reveal)
  | renderConfig (reveal : Bool) : Looks (.renderConfig reveal)

/-! ## §3. What a command does. -/

/-- All that a command can do to the file of the settings. -/
inductive Ran (path : Path) (terminal : Terminal) (m : Machine) (command : SettingsCommand) :
    Except Failure Output → Machine → Prop where
  | looked (looks : Looks command) (answer : Except Failure Output) : Ran path terminal m command answer m
  /-- It fails, and the file holds what it held. -/
  | failed (e : Failure) {m' : Machine} (same : m'.files.held path = m.files.held path) :
      Ran path terminal m command (.error e) m'
  | cleared (clear : command = .clear) (out : Output) {m' : Machine}
      (gone : m'.files.held path = none ∨ m' = m) : Ran path terminal m command (.ok out) m'
  /-- One setting is changed, and the record is put among the other texts. -/
  | changed {f : Setting} {change : Settings → Except Rejected Settings}
      (changes : Changes terminal command f change) (out : Output) {x : Settings}
      (accepted : change (recordAt path m) = .ok x) {entries : Entries String}
      (before : FileStore.contents path m.files = .ok entries) {m' : Machine}
      (after : FileStore.contents path m'.files = .ok (entries.insert SettingsStore.key x.json)) :
      Ran path terminal m command (.ok out) m'

theorem ran_updated (changes : Changes terminal command f change) :
    Ran path terminal m command (updated (.onFiles path) f change ⟨m, recordAt path m⟩).1
      (updated (.onFiles path) f change ⟨m, recordAt path m⟩).2.storage := by
  unfold updated
  cases edited : change (recordAt path m) with
  | error r =>
      rw [SettingsStore.update_on_rejected (s := ⟨m, recordAt path m⟩) edited]
      exact .failed _ rfl
  | ok x =>
      rw [SettingsStore.update_on (s := ⟨m, recordAt path m⟩) edited, Storing.on_map,
        SettingsStore.persist_on]
      have put : ((onFiles path).put SettingsStore.key x.json).on m
          = (((FileStore.put path SettingsStore.key x.json).on m.files).1,
            { m with files := ((FileStore.put path SettingsStore.key x.json).on m.files).2 }) := rfl
      simp only [put]
      rcases FileStore.put_cases path SettingsStore.key x.json m.files with
        ⟨entries, t, before, done, after⟩ | ⟨e, t, failed, same⟩
      · rw [done]
        exact .changed changes _ edited before after
      · rw [failed]
        exact .failed _ same

/-- **Every command is one of the cases.** -/
theorem ran_perform (path : Path) (terminal : Terminal) (m : Machine) (command : SettingsCommand) :
    Ran path terminal m command
      (perform terminal (.onFiles path) command (.load (.onFiles path) m)).1
      (perform terminal (.onFiles path) command (.load (.onFiles path) m)).2.storage := by
  rw [load_onFiles]
  cases command with
  | «show» reveal =>
      -- the settings are read once more before they are shown
      rw [perform, SettingsStore.reload, load_onFiles]
      exact .looked (.show reveal) _
  | renderConfig reveal =>
      rw [perform]
      cases renderedConfig (recordAt path m) with
      | ok v => exact .looked (.renderConfig reveal) _
      | error r => exact .looked (.renderConfig reveal) _
  | set f raw => exact ran_updated (.typed f raw)
  | setSecret f value =>
      cases value with
      | some value => exact ran_updated (.given f value)
      | none =>
          rw [perform]
          cases answer : askFor terminal f with
          | ok value => exact ran_updated (.asked f answer)
          | error e => exact .failed e rfl
  | clear =>
      rw [perform, SettingsStore.clear_on]
      have cleared : (onFiles path).clear.on m
          = (((FileStore.clear path).on m.files).1,
            { m with files := ((FileStore.clear path).on m.files).2 }) := rfl
      simp only [cleared]
      rcases FileStore.clear_cases path m.files with ⟨t, done, gone⟩ | ⟨answer, same⟩
      · rw [done]
        exact .cleared rfl _ (.inl gone)
      · rw [same]
        cases answer with
        | ok a => exact .cleared rfl _ (.inr rfl)
        | error e => exact .failed _ rfl

/-- **A command that changes a setting and goes through** has put the changed
record among the other texts. -/
theorem Ran.change_of_ok {out : Output} (ran : Ran path terminal m command (.ok out) m')
    (changes : Changes terminal command f change) :
    change (recordAt path m) = .ok (recordAt path m')
      ∧ ∃ entries, FileStore.contents path m.files = .ok entries
        ∧ FileStore.contents path m'.files
          = .ok (entries.insert SettingsStore.key (recordAt path m').json) := by
  cases ran with
  | looked looks => cases looks <;> cases changes
  | cleared clear =>
      subst clear
      cases changes
  | changed changes' out accepted before after =>
      obtain ⟨rfl, rfl⟩ := changes.unique changes'
      have taken := recordAt_of_put (changes.mtu accepted (recordAt_mtu path m)) after
      exact ⟨taken ▸ accepted, _, before, taken ▸ after⟩

/-! ## §4. The setting that was named. -/

theorem mem_of_settingOf {settings : List Setting} {levels : List ReadLevel} {f : Setting}
    (named : settingOf? settings levels = some f) : f ∈ settings := by
  obtain ⟨word, -, found⟩ := Option.bind_eq_some_iff.mp named
  exact List.mem_of_find?_eq_some found

/-- Only a credential is taken as it is. -/
theorem mem_credentials_of_levels {levels : List ReadLevel} {f : Setting} {value : Option String}
    (read : SettingsCommand.ofLevels? levels = some (.setSecret f value)) : f ∈ credentials := by
  unfold SettingsCommand.ofLevels? at read
  simp only [] at read
  -- one case for each form of a command; `set-secret` looks among the credentials
  split at read
  next => cases read
  next =>
    obtain ⟨g, named, rest⟩ := Option.bind_eq_some_iff.mp read
    obtain ⟨word, given, rest⟩ := Option.bind_eq_some_iff.mp rest
    cases rest
  next =>
    obtain ⟨g, named, rest⟩ := Option.bind_eq_some_iff.mp read
    injection rest with rest
    injection rest with same
    exact same ▸ mem_of_settingOf named
  next => cases read
  next => cases read
  next => cases read

theorem mem_credentials_of_read {environment : Environment} {words : List String} {i : Invocation}
    (read : Invocation.read environment words = .ok i) {f : Setting} {value : Option String}
    (asked : i.command = .onSettings (.setSecret f value)) : f ∈ credentials := by
  obtain ⟨levels, -, read⟩ := bind_eq_ok_iff.mp read
  split at read
  next => cases read
  next command found =>
    injection read with read
    subst read
    have same : command = .onSettings (.setSecret f value) := asked
    subst same
    unfold Command.ofLevels? at found
    split at found
    next =>
      obtain ⟨word, -, rest⟩ := Option.bind_eq_some_iff.mp found
      obtain ⟨shell, -, rest⟩ := Option.bind_eq_some_iff.mp rest
      cases rest
    next =>
      obtain ⟨command, found, same⟩ := Option.map_eq_some_iff.mp found
      injection same with same
      subst same
      exact mem_credentials_of_levels found

theorem mem_credentials_of_prepare {around : Surroundings} {words : List String} {files : FileTree}
    {i : Invocation} {config : AppConfig} (prepared : prepare around words files = .ok (i, config))
    {f : Setting} {value : Option String} (asked : i.command = .onSettings (.setSecret f value)) :
    f ∈ credentials := by
  -- the app config is read after the command line, and does not change it
  obtain ⟨i', read, prepared⟩ := bind_eq_ok_iff.mp prepared
  obtain ⟨config', -, same⟩ := bind_eq_ok_iff.mp prepared
  injection same with same
  injection same with same
  subst same
  exact mem_credentials_of_read (mapError_eq_ok_iff.mp read) asked

/-! ## §5. What a run does. -/

/-- Surroundings with nothing in the environment and no terminal. -/
def Surroundings.bare : Surroundings where
  environment := []
  configFolder := ["cfg"]
  terminal := fun _ => .error "no terminal"

/-- The store that a run uses. -/
def Invocation.store (config : AppConfig) (i : Invocation) : SecretStore Machine :=
  .chosen (i.storeFile config) config.keyringService

theorem run_of_onSettings {around : Surroundings} {words : List String} {i : Invocation}
    {config : AppConfig} (prepared : prepare around words m.files = .ok (i, config))
    (asked : i.command = .onSettings command) :
    run around words m
      = ((perform around.terminal (i.store config) command (.load (i.store config) m)).1,
        (perform around.terminal (i.store config) command (.load (i.store config) m)).2.storage) := by
  unfold run
  simp only [prepared, asked]
  rfl

/-- A run keeps its settings in the file of a path, if it comes to that. -/
def KeptIn (path : Path) (around : Surroundings) (words : List String) (m : Machine) : Prop :=
  ∀ i config, prepare around words m.files = .ok (i, config) →
    ∃ text, i.storeFile config = some text ∧ Path.ofText text = path

theorem KeptIn.store {around : Surroundings} {words : List String}
    (kept : KeptIn path around words m) {i : Invocation} {config : AppConfig}
    (prepared : prepare around words m.files = .ok (i, config)) : i.store config = .onFiles path := by
  obtain ⟨text, named, rfl⟩ := kept i config prepared
  unfold Invocation.store
  rw [named]
  rfl

theorem keptIn_of_prepare {around : Surroundings} {words : List String} {i : Invocation}
    {config : AppConfig} (prepared : prepare around words m.files = .ok (i, config)) {text : String}
    (named : i.storeFile config = some text) : KeptIn (Path.ofText text) around words m := by
  intro i' config' prepared'
  rw [prepared] at prepared'
  injection prepared' with same
  injection same with same same'
  subst same same'
  exact ⟨text, named, rfl⟩

/-- A run that comes to its command does what that command does. -/
theorem run_of_prepare {around : Surroundings} {words : List String}
    (kept : KeptIn path around words m) {i : Invocation} {config : AppConfig}
    (prepared : prepare around words m.files = .ok (i, config)) {command : SettingsCommand}
    (asked : i.command = .onSettings command) :
    run around words m
      = ((perform around.terminal (.onFiles path) command (.load (.onFiles path) m)).1,
        (perform around.terminal (.onFiles path) command (.load (.onFiles path) m)).2.storage) := by
  rw [run_of_onSettings prepared asked, kept.store prepared]

theorem ran_run {around : Surroundings} {words : List String}
    (kept : KeptIn path around words m) {i : Invocation} {config : AppConfig}
    (prepared : prepare around words m.files = .ok (i, config)) {command : SettingsCommand}
    (asked : i.command = .onSettings command) :
    Ran path around.terminal m command (run around words m).1 (run around words m).2 := by
  rw [run_of_prepare kept prepared asked]
  exact ran_perform path around.terminal m command

/-- **A run leaves the storage, or does what its command does.** -/
theorem run_cases {around : Surroundings} {words : List String} (kept : KeptIn path around words m) :
    (run around words m).2 = m
      ∨ ∃ i config command, prepare around words m.files = .ok (i, config)
        ∧ i.command = .onSettings command
        ∧ Ran path around.terminal m command (run around words m).1 (run around words m).2 := by
  cases prepared : prepare around words m.files with
  | error e =>
      refine .inl ?_
      unfold run
      rw [prepared]
  | ok r =>
      obtain ⟨i, config⟩ := r
      cases asked : i.command with
      | completions shell =>
          refine .inl ?_
          unfold run
          simp only [prepared, asked]
      | onSettings command =>
          exact .inr ⟨i, config, command, rfl, asked, ran_run kept prepared asked⟩

end CommandLine

end TunnelControl
