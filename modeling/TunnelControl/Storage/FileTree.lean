/-
  TunnelControl.Storage.FileTree
  ──────────────────────────────
  **A TREE OF FILES AND THE STEPS THAT CHANGE IT.**

  A tree says what is at each location; a location is the list of names from
  the root.  A path is followed one name at a time, from the root or from the
  working folder.

    • `FileTree.locate`   — the location of a path,
    • `FileTree.readText`, `FileTree.mode?`, `FileTree.remove`,
    • `FileStep.perform`  — one change, which a failure leaves undone,
    • `FileTree.run`      — changes in a row, up to the first that fails.
-/
import TunnelControl.Storage.Error
import TunnelControl.Storage.Path

namespace TunnelControl

/-- The names from the root to a place in a tree. -/
abbrev Location := List String

/-- What a file holds. -/
inductive Content where
  | text (s : String)
  | binary
deriving DecidableEq

/-- What is at a location. -/
inductive Node where
  | directory
  /-- A file with its content and its permission bits. -/
  | file (content : Content) (mode : Nat)
deriving DecidableEq

/-- A tree of files. -/
structure FileTree where
  node : Location → Option Node
  here : Location

namespace FileTree

/-! ## §1. Trees. -/

/-- A tree of folders alone: the working folder and those around it. -/
def onlyFolders (here : Location) : FileTree where
  node := fun l => if l.isPrefixOf here then some .directory else none
  here := here

/-- Puts a node at a location. -/
def put (l : Location) (n : Node) (t : FileTree) : FileTree :=
  { t with node := fun m => if m = l then some n else t.node m }

/-- Leaves a location empty. -/
def drop (l : Location) (t : FileTree) : FileTree :=
  { t with node := fun m => if m = l then none else t.node m }

/-- Puts a node at the end of names below a location, with the folders on the
way to it. -/
def plantBelow (t : FileTree) (n : Node) : Location → List String → FileTree
  | l, [] => t.put l n
  | l, part :: rest => plantBelow (t.put l .directory) n (l ++ [part]) rest

/-- Puts a node at a path, with the folders on the way to it. -/
def plant (t : FileTree) (p : Path) (n : Node) : FileTree :=
  t.plantBelow n (if p.absolute then [] else t.here) p.parts

/-! ## §2. Following a path. -/

/-- Follows names from a location.  Every name but the last must lead to a
folder. -/
def walk (t : FileTree) : Location → List String → Except IoError Location
  | l, [] => .ok l
  | l, part :: rest =>
      match t.node l with
      | none => .error .notFound
      | some (.file _ _) => .error .notADirectory
      | some .directory => walk t (if part = ".." then l.dropLast else l ++ [part]) rest

/-- The location of a path, whether or not something is there. -/
def locate (t : FileTree) (p : Path) : Except IoError Location :=
  if p.isEmpty then .error .notFound
  else walk t (if p.absolute then [] else t.here) p.parts

/-- What a path leads to. -/
def find (t : FileTree) (p : Path) : Except IoError (Location × Node) :=
  match t.locate p with
  | .error e => .error e
  | .ok l =>
      match t.node l with
      | none => .error .notFound
      | some (.file c m) => if p.folder then .error .notADirectory else .ok (l, .file c m)
      | some .directory => .ok (l, .directory)

/-- The text of a file. -/
def readText (t : FileTree) (p : Path) : Except IoError String :=
  match t.find p with
  | .error e => .error e
  | .ok (_, .directory) => .error .isADirectory
  | .ok (_, .file .binary _) => .error .invalidData
  | .ok (_, .file (.text s) _) => .ok s

/-- The permission bits of what a path leads to. -/
def mode? (t : FileTree) (p : Path) : Option Nat :=
  match t.find p with
  | .error _ => none
  | .ok (_, .directory) => some 0o755
  | .ok (_, .file _ mode) => some mode

/-- Removes a file. -/
def remove (t : FileTree) (p : Path) : Except IoError FileTree :=
  match t.find p with
  | .error e => .error e
  | .ok (_, .directory) => .error .isADirectory
  | .ok (l, .file _ _) => .ok (t.drop l)

/-- Opens a file for writing: what was in it is gone.  A new file gets the
given permission bits, one that exists keeps its own. -/
def openEmpty (t : FileTree) (p : Path) (mode : Nat) : Except IoError FileTree :=
  match t.locate p with
  | .error e => .error e
  | .ok l =>
      if p.folder then .error .isADirectory
      else match t.node l with
        | some .directory => .error .isADirectory
        | some (.file _ kept) => .ok (t.put l (.file (.text "") kept))
        | none =>
            match t.node l.dropLast with
            | some .directory => .ok (t.put l (.file (.text "") mode))
            | some (.file _ _) => .error .notADirectory
            | none => .error .notFound

/-- Adds a text to the end of a file. -/
def append (t : FileTree) (p : Path) (s : String) : Except IoError FileTree :=
  match t.find p with
  | .error e => .error e
  | .ok (_, .directory) => .error .isADirectory
  | .ok (_, .file .binary _) => .error .invalidData
  | .ok (l, .file (.text old) mode) => .ok (t.put l (.file (.text (old ++ s)) mode))

/-- Makes a folder unless it is there. -/
def makeFolder (t : FileTree) (p : Path) : Except IoError FileTree :=
  match t.locate p with
  | .error e => .error e
  | .ok l =>
      match t.node l with
      | some .directory => .ok t
      | some (.file _ _) => .error .alreadyExists
      | none => .ok (t.put l .directory)

/-- Moves a file to another path, in place of the file that was there. -/
def rename (t : FileTree) (source target : Path) : Except IoError FileTree :=
  match t.find source, t.locate target with
  | .error e, _ => .error e
  | .ok _, .error e => .error e
  | .ok (_, .directory), .ok _ => .error .isADirectory
  | .ok (l, .file c m), .ok l' =>
      if target.folder then .error .notADirectory
      else match t.node l' with
        | some .directory => .error .isADirectory
        | _ => .ok ((t.drop l).put l' (.file c m))

end FileTree

/-! ## §3. Steps. -/

/-- A change of a tree that happens wholly or not at all. -/
inductive FileStep where
  | makeFolder (path : Path)
  /-- Empties a file, or creates one that only its owner may use. -/
  | openPrivate (path : Path)
  | append (path : Path) (text : String)
  /-- Waits until the file is on the disk. -/
  | sync (path : Path)
  | rename (source target : Path)
deriving DecidableEq

/-- One step on a tree. -/
def FileStep.perform (t : FileTree) : FileStep → Except IoError FileTree
  | makeFolder path => t.makeFolder path
  | openPrivate path => t.openEmpty path 0o600
  | append path text => t.append path text
  | sync _ => .ok t
  | rename source target => t.rename source target

/-- Steps in a row.  The steps before the first failure stay done. -/
def FileTree.run (t : FileTree) : List FileStep → Option IoError × FileTree
  | [] => (none, t)
  | step :: rest =>
      match step.perform t with
      | .ok t => t.run rest
      | .error e => (some e, t)

end TunnelControl
