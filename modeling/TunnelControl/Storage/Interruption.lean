/-
  TunnelControl.Storage.Interruption
  ──────────────────────────────────
  **WHAT AN INTERRUPTED CHANGE MAY LEAVE.**

  A step that opens, writes or syncs a file may fail halfway, or the program
  may stop there; then anything may be in the file that the step names, and
  all else is as it was.  Making a folder and moving a file happen wholly or
  not at all.

    • `FileStep.Leaves`        — what one step may leave that does not go through,
    • `FileTree.Stops`         — where steps in a row may come to a stop,
    • `FileStore.Update`       — a change of the texts in a file,
    • `FileStore.Update.Stops` — where such a change may come to a stop.
-/
import TunnelControl.Storage.FileStore

namespace TunnelControl

/-! ## §1. Steps. -/

/-- The file that a step works on. -/
def FileStep.writesTo : FileStep → Option Path
  | openPrivate path => some path
  | append path _ => some path
  | sync path => some path
  | makeFolder _ => none
  | rename _ _ => none

/-- What a step may leave that has failed or was cut short. -/
inductive FileStep.Leaves (t : FileTree) (step : FileStep) : FileTree → Prop where
  | nothing : Leaves t step t
  /-- The file that it works on holds anything, whether or not it was there. -/
  | written (path : Path) (l : Location) (content : Content) (mode : Nat)
      (works : step.writesTo = some path) (found : t.locate path = .ok l)
      (file : path.folder = false) (free : t.node l ≠ some .directory)
      (parent : t.node l.dropLast = some .directory) :
      Leaves t step (t.put l (.file content mode))

/-- What steps in a row may leave, wherever they come to a stop. -/
inductive FileTree.Stops : FileTree → List FileStep → FileTree → Prop where
  /-- The first step is the one that does not go through. -/
  | here {t t' : FileTree} {step : FileStep} {rest : List FileStep} (leaves : step.Leaves t t') :
      Stops t (step :: rest) t'
  /-- The first step goes through. -/
  | later {t t₁ t' : FileTree} {step : FileStep} {rest : List FileStep}
      (through : step.perform t = .ok t₁) (stops : Stops t₁ rest t') : Stops t (step :: rest) t'
  /-- All steps have gone through. -/
  | done {t : FileTree} : Stops t [] t

namespace FileStore

/-! ## §2. Changes of the texts in a file. -/

/-- A change of the texts in a file. -/
inductive Update where
  | put (key value : String)
  | remove (key : String)
deriving DecidableEq

namespace Update

/-- The texts after the change; none if there is nothing to write. -/
def change (entries : Entries String) : Update → Option (Entries String)
  | put key value => some (entries.insert key value)
  | remove key => if (entries.get? key).isSome then some (entries.erase key) else none

/-- Makes the change. -/
def run (path : Path) : Update → Storing FileTree Unit
  | put key value => FileStore.put path key value
  | remove key => FileStore.remove path key

/-- What a change may leave, wherever it comes to a stop. -/
inductive Stops (path : Path) (t : FileTree) (u : Update) : FileTree → Prop where
  /-- Nothing is written yet, or the file cannot be read, or the change leaves
  the texts as they are. -/
  | before : Stops path t u t
  /-- The texts are being written. -/
  | saving {entries changed : Entries String} {t' : FileTree}
      (read : contents path t = .ok entries) (change : u.change entries = some changed)
      (stops : t.Stops (saving path (codec.encodePretty changed)) t') : Stops path t u t'

end Update

end FileStore

/-! ## §3. A file that is its own neighbour. -/

/-- Is the file written in its own place, since its name is that of its
neighbour? -/
def Path.isOwnNeighbour (p : Path) : Bool :=
  match p.folder, p.parts.getLast? with
  | false, some name => name ≠ ".." && stem name ++ ".tmp" = name
  | _, _ => false

end TunnelControl
