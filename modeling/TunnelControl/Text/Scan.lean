/-
  TunnelControl.Text.Scan
  ───────────────────────
  **READING A TEXT FROM THE FRONT.**

  A scan takes something off the front of a text or fails; a failed
  alternative has taken nothing.

    • `Scan.char`, `Scan.word`, `Scan.next`, `Scan.takeWhile`, `Scan.take`,
    • `Scan.many`, `Scan.separated`,
    • `Scan.run?` — the whole text and nothing left.
-/
namespace TunnelControl

/-- Readers of the front of a text. -/
abbrev Scan := StateT (List Char) Option

namespace Scan

variable {α β : Type}

/-- The next character, which stays where it is. -/
def peek : Scan (Option Char) := fun cs => some (cs.head?, cs)

/-- Takes the next character. -/
def next : Scan Char
  | [] => none
  | c :: cs => some (c, cs)

/-- Takes a given character. -/
def char (c : Char) : Scan Unit
  | [] => none
  | d :: cs => if d = c then some ((), cs) else none

/-- Takes given characters. -/
def word : List Char → Scan Unit
  | [] => pure ()
  | c :: rest => do
      char c
      word rest

/-- Takes the characters of a class. -/
def takeWhile (p : Char → Bool) : Scan (List Char) := fun cs =>
  some (cs.takeWhile p, cs.dropWhile p)

/-- Takes the characters of a class, at least one. -/
def takeSome (p : Char → Bool) : Scan (List Char) := do
  let taken ← takeWhile p
  if taken.isEmpty then failure else pure taken

/-- Takes a number of characters of a class. -/
def take (p : Char → Bool) : Nat → Scan (List Char)
  | 0 => pure []
  | n + 1 => do
      let c ← next
      if p c then return c :: (← take p n) else failure

/-- Takes something if it is there. -/
def optional? (x : Scan α) : Scan (Option α) := (some <$> x) <|> pure none

/-- Takes something up to a number of times. -/
def manyWithin (x : Scan α) : Nat → Scan (List α)
  | 0 => pure []
  | n + 1 => do
      match ← optional? x with
      | none => pure []
      | some a => return a :: (← manyWithin x n)

/-- Takes something as often as it is there; it takes a character each time. -/
def many (x : Scan α) : Scan (List α) := fun cs => manyWithin x cs.length cs

/-- Takes one or more things with something between them. -/
def separated (x : Scan α) (between : Scan β) : Scan (List α) := do
  let first ← x
  return first :: (← many do
    let _ ← between
    x)

/-- Succeeds at the end of the text. -/
def atEnd : Scan Unit
  | [] => some ((), [])
  | _ => none

/-- Reads a whole text. -/
def run? (x : Scan α) (s : String) : Option α :=
  match x s.toList with
  | some (a, []) => some a
  | _ => none

end Scan

end TunnelControl
