/-
  TunnelControl.Proofs.CommandLine.Tidiness
  ─────────────────────────────────────────
  **AFTER EVERY ROW OF RUNS THE SETTINGS ARE TIDY.**

  Where no file was, runs of the program put only settings into it that were
  typed and accepted, or entered as a credential.  So whatever the runs were
  and however they ended, the next run takes up tidy settings, and rendering
  them asks for missing texts and zero times alone.

    • `Changes.tidy`          — every change keeps the form,
    • `TidyFile`, `Ran.tidyFile` — the invariant of the file, and one run,
    • `Runs`, `Runs.tidyFile` — runs one after the other,
    • `RendersOrMisses`, `records_stay_tidy`.
-/
import TunnelControl.Proofs.CommandLine.Runs
import TunnelControl.Proofs.Settings.Tidy

namespace TunnelControl.CommandLine

open Settings (Tidy)

variable {path : Path} {around : Surroundings} {words : List String} {m₀ m m' : Machine}
  {command : SettingsCommand} {f : Setting} {change : Settings → Except Rejected Settings}
  {s x : Settings}

/-! ## §1. One command. -/

/-- A command that takes a value as it is names a credential. -/
def NamesCredential (command : SettingsCommand) : Prop :=
  ∀ f value, command = .setSecret f value → f ∈ credentials

/-- **Every change keeps the form.** -/
theorem Changes.tidy (changes : Changes around.terminal command f change) (names : NamesCredential command)
    (accepted : change s = .ok x) (tidy : s.Tidy) : x.Tidy := by
  cases changes with
  | typed f raw => exact (Settings.entered_of_enter accepted).tidy tidy
  | given f value =>
      injection accepted with accepted
      exact accepted ▸ tidy.setText_credential (names f _ rfl) value
  | asked f answer =>
      injection accepted with accepted
      exact accepted ▸ tidy.setText_credential (names f _ rfl) _

/-- Whatever texts the file holds, the settings among them are tidy. -/
def TidyFile (path : Path) (t : FileTree) : Prop :=
  ∀ raw entries, t.held path = some (.text raw) → FileStore.decode raw = .ok entries →
    (SettingsStore.ofStored (entries.get? SettingsStore.key)).Tidy

/-- **From such a file tidy settings are taken up.** -/
theorem TidyFile.recordAt (h : TidyFile path m.files) : (recordAt path m).Tidy := by
  rw [recordAt_eq]
  cases read : FileStore.contents path m.files with
  | error e => exact Settings.tidy_default
  | ok entries =>
      rcases FileStore.readText_of_contents read with ⟨raw, text⟩ | ⟨-, rfl⟩
      · exact h raw entries (FileTree.held_of_readText text)
          ((FileStore.contents_of_text text).symm.trans read)
      · exact Settings.tidy_default

theorem TidyFile.of_held {t t' : FileTree} (h : TidyFile path t)
    (same : t'.held path = t.held path) : TidyFile path t' := by
  unfold TidyFile
  rw [same]
  exact h

/-- A file is tidy if tidy settings were put into it. -/
theorem tidyFile_of_put {entries : Entries String} (tidy : x.Tidy)
    (read : FileStore.contents path m.files = .ok (entries.insert SettingsStore.key x.json)) :
    TidyFile path m.files := by
  have taken := recordAt_of_put (ConnectionConfig.mtuInRange_iff.mpr tidy.mtu) read
  rw [recordAt_of_contents read] at taken
  -- the texts that the file holds are those that were put
  intro raw entries' held decoded
  rcases FileStore.readText_of_contents read with ⟨raw', text⟩ | ⟨-, none⟩
  · have same := held.symm.trans (FileTree.held_of_readText text)
    injection same with same
    injection same with same
    subst same
    rw [FileStore.contents_of_text text, decoded] at read
    injection read with read
    rw [read, taken]
    exact tidy
  · -- what was put is there
    have there := Entries.get?_insert SettingsStore.key SettingsStore.key x.json entries
    rw [none, if_pos rfl] at there
    cases there

/-- **A command keeps the file tidy**, however it ends. -/
theorem Ran.tidyFile {answer : Except Failure Output}
    (ran : Ran path around.terminal m command answer m') (names : NamesCredential command)
    (tidy : TidyFile path m.files) : TidyFile path m'.files := by
  cases ran with
  | looked => exact tidy
  | failed e same => exact tidy.of_held same
  | cleared clear out gone =>
      rcases gone with gone | rfl
      · intro raw entries held
        rw [gone] at held
        cases held
      · exact tidy
  | changed changes out accepted before after =>
      exact tidyFile_of_put (changes.tidy names accepted tidy.recordAt) after

/-! ## §2. Runs one after the other. -/

/-- Runs of the program that keep the settings in one file, each in a process
and surroundings of its own. -/
inductive Runs (path : Path) (m₀ : Machine) : Machine → Prop where
  | start : Runs path m₀ m₀
  | next {m : Machine} (runs : Runs path m₀ m) {around : Surroundings} {words : List String}
      (kept : KeptIn path around words m) : Runs path m₀ (run around words m).2

/-- **The file stays tidy**, by induction on the runs. -/
theorem Runs.tidyFile (nothing : m₀.files.held path = none) (runs : Runs path m₀ m) :
    TidyFile path m.files := by
  induction runs with
  | start =>
      intro raw entries held
      rw [nothing] at held
      cases held
  | next runs kept ih =>
      rcases run_cases kept with same | ⟨i, config, command, prepared, asked, ran⟩
      · rw [same]
        exact ih
      · refine ran.tidyFile (fun f value same => ?_) ih
        exact mem_credentials_of_prepare prepared (same ▸ asked)

/-- A run that renders the config prints it, or says what is missing. -/
def RendersOrMisses (path : Path) (m : Machine) : Prop :=
  ∀ around words i config reveal, KeptIn path around words m →
    prepare around words m.files = .ok (i, config) →
    i.command = .onSettings (.renderConfig reveal) →
    (∃ out, (run around words m).1 = .ok out)
      ∨ ∃ r, (run around words m).1 = .error (.invalidSettings r) ∧ r.problems ≠ []
        ∧ ∀ p ∈ r.problems, Settings.Missing p

theorem rendersOrMisses (tidy : (recordAt path m).Tidy) : RendersOrMisses path m := by
  intro around words i config reveal kept prepared asked
  rw [run_of_prepare kept prepared asked, load_onFiles, perform]
  rcases tidy.renderedConfig with ⟨v, rendered⟩ | ⟨r, refused, some, missing⟩
  · exact .inl ⟨_, by rw [rendered]⟩
  · exact .inr ⟨r, by rw [refused], some, missing⟩

/-- **After every row of runs, accepted or rejected, the settings that are
taken up next are tidy**, and nothing but missing texts and zero times is wrong
with their config. -/
theorem records_stay_tidy (nothing : m₀.files.held path = none) (runs : Runs path m₀ m) :
    (recordAt path m).Tidy ∧ RendersOrMisses path m := by
  have tidy := (runs.tidyFile nothing).recordAt
  exact ⟨tidy, rendersOrMisses tidy⟩

/-- A rejected edit and then a list of servers with blanks around them, on a
tree without a file. -/
theorem typed_servers_stay_tidy :
    let around := Surroundings.bare
    let path := Path.ofText "s"
    let m₀ : Machine := { files := FileTree.onlyFolders ["home"] }
    let m₁ := (run around ["--settings-file", "s", "settings", "set", "mtu", "9000"] m₀).2
    let m₂ := (run around ["--settings-file", "s", "settings", "set", "upstream-dns", "a:1, ,b:2 "] m₁).2
    m₀.files.held path = none ∧ Runs path m₀ m₂
      ∧ (recordAt path m₂).Tidy ∧ RendersOrMisses path m₂
      ∧ (recordAt path m₂).upstreamDns = ["a:1", "b:2"] := by
  intro around path m₀ m₁ m₂
  have nothing : m₀.files.held path = none := rfl
  have kept : KeptIn path around ["--settings-file", "s", "settings", "set", "mtu", "9000"] m₀ :=
    keptIn_of_prepare (i := ⟨none, some "s", 0, false, .onSettings (.set .mtu "9000")⟩) rfl rfl
  let servers := ["--settings-file", "s", "settings", "set", "upstream-dns", "a:1, ,b:2 "]
  obtain ⟨config, prepared⟩ : ∃ config, prepare around servers m₁.files
      = .ok (⟨none, some "s", 0, false, .onSettings (.set .upstreamDns "a:1, ,b:2 ")⟩, config) :=
    ⟨_, rfl⟩
  have kept' : KeptIn path around servers m₁ := keptIn_of_prepare prepared rfl
  have runs : Runs path m₀ m₂ := (Runs.start.next kept).next kept'
  obtain ⟨tidy, renders⟩ := records_stay_tidy nothing runs
  -- the second run goes through, on the tree that the first one left
  have left : m₁ = m₀ := rfl
  have ran := ran_run kept' prepared rfl
  have done : (run around servers m₁).1 = .ok { stderr := "upstreamDNS updated\n" } := by
    rw [left]
    rfl
  rw [done] at ran
  have entered : Settings.enter .upstreamDns "a:1, ,b:2 " (recordAt path m₁)
      = .ok { upstreamDns := ["a:1", "b:2"] } := by
    rw [left]
    rfl
  have same : recordAt path m₂ = { upstreamDns := ["a:1", "b:2"] } := by
    injection (ran.change_of_ok (.typed _ _)).1.symm.trans entered
  exact ⟨nothing, runs, tidy, renders, by rw [same]⟩

end TunnelControl.CommandLine
