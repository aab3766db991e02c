/-
  TunnelControl.Storage.Path
  ──────────────────────────
  **PATHS OF FILES.**

  A path is a list of names.  Repeated slashes and dots that stand for the
  folder itself do not count; a slash or a dot at its end says that the path
  names a folder.

    • `Path.ofText`,
    • `Path.folders`   — the folders on the way to the last name,
    • `Path.temporary` — the neighbour that is written before it takes the
      path's place.
-/
import TunnelControl.Text.Parts

namespace TunnelControl

/-- A path. -/
structure Path where
  /-- The path starts at the root, not at the working folder. -/
  absolute : Bool
  /-- The names on the way, `..` among them. -/
  parts : List String
  /-- The path can only name a folder. -/
  folder : Bool
deriving DecidableEq

namespace Path

/-- Names that lead from a folder to itself. -/
def staysHere (part : String) : Bool := part == "" || part == "."

/-- Reads a path.  The empty path leads nowhere. -/
def ofText (s : String) : Path :=
  let pieces := Text.splitString '/' s
  { absolute := s.toList.head? == some '/'
    parts := pieces.filter fun p => !staysHere p
    folder := s ≠ "" && (pieces.getLast?.map staysHere).getD false }

/-- The path is the empty text. -/
def isEmpty (p : Path) : Bool := !p.absolute && p.parts.isEmpty && !p.folder

/-- The non-empty beginnings of a list that leave out its last entry. -/
def beginnings {α : Type} : List α → List (List α)
  | [] => []
  | [_] => []
  | a :: b :: rest => [a] :: (beginnings (b :: rest)).map (a :: ·)

/-- The folders that lead to the last name, outermost first. -/
def folders (p : Path) : List Path :=
  (beginnings p.parts).map fun parts => ⟨p.absolute, parts, true⟩

/-- A file name without its extension.  A dot at the front starts no
extension. -/
def stem (name : String) : String :=
  match (Text.parts '.' name.toList).reverse with
  | _ :: kept :: rest =>
      let front := (kept :: rest).reverse
      if front = [[]] then name else String.ofList (List.intercalate ['.'] front)
  | _ => name

/-- The path with the extension `tmp`.  A path without a last name is left
alone. -/
def temporary (p : Path) : Path :=
  match p.parts.getLast? with
  | none => p
  | some name =>
      if name = ".." then p
      else { p with parts := p.parts.dropLast ++ [stem name ++ ".tmp"], folder := false }

end Path

end TunnelControl
