/-
  TunnelControl.Main
  ──────────────────
  **THE PROGRAM.**

  The outer layer: it reads the arguments, the environment and the files
  that a run can look at, lets the run happen on them, and writes back the
  file of the settings if it changed.  It has no keyring of its own, so
  settings without a file are refused.

    • `main`.
-/
import TunnelControl.CommandLine.Run

namespace TunnelControl.Program

open CommandLine

/-- The environment variables that mean something. -/
def knownVariables : List String :=
  ["OLM_CONFIG", "OLM_SETTINGS_FILE", "OLM_SECRET_VALUE", "OLM_SYNC_INTERVAL_SECS",
    "OLM_KEYRING_SERVICE", "OLM_LOG", "OLM_LOG__FILTER", "OLM_LOG__JSON"]

/-- The values of the known variables that are set. -/
def readEnvironment : IO Environment := do
  let values ← knownVariables.mapM fun name => do
    return (← IO.getEnv name).map fun value => (name, value)
  return values.filterMap id

/-- The folder of all configurations. -/
def readConfigFolder : IO Location := do
  let folder ← match ← IO.getEnv "XDG_CONFIG_HOME" with
    | some folder => pure folder
    | none => pure ((← IO.getEnv "HOME").getD "" ++ "/.config")
  return (Path.ofText folder).parts

/-- The text of a path. -/
def pathText (p : Path) : String :=
  (if p.absolute then "/" else "") ++ String.intercalate "/" p.parts

/-- What a file holds, if there is one.  What cannot be read is no text, so
that nothing is written over it. -/
def readContent? (path : String) : IO (Option Content) := do
  try
    return some (.text (← IO.FS.readFile path))
  catch e =>
    match e with
    | .noFileOrDirectory _ _ _ => return none
    | _ => return some .binary

/-- Takes a file up into a tree if there is one. -/
def takeUp (t : FileTree) (p : Path) : IO FileTree := do
  match ← readContent? (pathText p) with
  | some content => return t.plant p (.file content 0o600)
  | none => return t

/-- Takes up a file and, if its path is relative, those of the same path in
the folders around the working folder. -/
def takeUpAround (t : FileTree) (p : Path) : IO FileTree :=
  if p.absolute then takeUp t p
  else (AppConfig.around t.here).foldlM
    (fun t folder => takeUp t ⟨true, folder ++ p.parts, p.folder⟩) t

/-- Asks for a credential; what is typed can be seen. -/
def ask (what : String) : IO String := do
  IO.eprint (what ++ ": ")
  return (← (← IO.getStdin).getLine).trimAsciiEnd.toString

/-- The answer to the one question of a run, if it has one. -/
def readAnswer (command : Command) : IO (Except String String) := do
  match command with
  | .onSettings (.setSecret setting none) => return .ok (← ask setting.wireName)
  | _ => return .error "nothing was asked"

/-- Writes a file that only its owner may use, by way of its neighbour. -/
def store (p : Path) (text : String) : IO Unit := do
  let target := pathText p
  let neighbour := pathText p.temporary
  for folder in p.folders do
    IO.FS.createDirAll (pathText folder)
  IO.FS.writeFile neighbour text
  IO.setAccessRights neighbour { user := { read := true, write := true } }
  IO.FS.rename neighbour target

/-- Writes back a file if its text changed. -/
def writeBack (p : Path) (old new : FileTree) : IO Unit := do
  match old.readText p, new.readText p with
  | .ok _, .error _ => IO.FS.removeFile (pathText p)
  | before, .ok text =>
      if before.toOption ≠ some text then store p text
  | _, _ => return ()

/-- Prints what came of a run and tells its exit code. -/
def report : Except Failure Output → IO UInt32
  | .ok output => do
      IO.print output.stdout
      IO.eprint output.stderr
      return 0
  | .error e => do
      IO.eprintln e.message
      IO.eprint ((e.advice?.map (· ++ "\n")).getD "")
      return UInt32.ofNat e.exitCode

/-- The keyring of a computer without one. -/
def noKeyring : Keyring := { refuses := fun _ _ => true }

/-- A whole run of the program. -/
def start (words : List String) : IO UInt32 := do
  let environment ← readEnvironment
  let here := (Path.ofText (toString (← IO.currentDir))).parts
  let silent : Surroundings := ⟨environment, ← readConfigFolder, fun _ => .error "no terminal"⟩
  match Invocation.read environment words with
  | .error e => report (.error (.usage e))
  | .ok i =>
      let files ← takeUpAround (FileTree.onlyFolders here) (i.configPath silent)
      match prepare silent words files with
      | .error e => report (.error e)
      | .ok (i, config) =>
          let place := (i.storeFile config).map Path.ofText
          let files ← match place with
            | some p => takeUp files p
            | none => pure files
          let answer ← readAnswer i.command
          let (result, m) :=
            run { silent with terminal := fun _ => answer } words ⟨files, noKeyring⟩
          match place with
          | some p => writeBack p files m.files
          | none => pure ()
          report result

end TunnelControl.Program

/-- Runs the program. -/
def main (words : List String) : IO UInt32 := TunnelControl.Program.start words
