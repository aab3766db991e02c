/-
  TunnelControl.Text.Parts
  ────────────────────────
  **CUTTING A TEXT AT A SEPARATOR.**

    • `parts`   — the pieces between all separators; there is at least one,
    • `cut?`    — the pieces before and after the first separator.
-/
namespace TunnelControl.Text

/-- The pieces of a text between separators. -/
def parts (sep : Char) : List Char → List (List Char)
  | [] => [[]]
  | c :: cs =>
      if c = sep then [] :: parts sep cs
      else match parts sep cs with
        | [] => [[c]]
        | p :: ps => (c :: p) :: ps

/-- The text before and after the first separator. -/
def cut? (sep : Char) : List Char → Option (List Char × List Char)
  | [] => none
  | c :: cs =>
      if c = sep then some ([], cs) else (cut? sep cs).map fun r => (c :: r.1, r.2)

/-- The pieces of a text as strings. -/
def splitString (sep : Char) (s : String) : List String :=
  (parts sep s.toList).map String.ofList

theorem parts_ne_nil (sep : Char) (cs : List Char) : parts sep cs ≠ [] := by
  induction cs with
  | nil => simp [parts]
  | cons c cs ih =>
      unfold parts
      split
      · simp
      · split <;> simp

end TunnelControl.Text
