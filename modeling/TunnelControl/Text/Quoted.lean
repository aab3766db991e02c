/-
  TunnelControl.Text.Quoted
  ─────────────────────────
  **DEBUG TEXT OF STRINGS.**

  Messages and debug texts show a string between double quotes.  The quote,
  the backslash and four control characters have short escapes; every other
  character that would not be seen as itself is written as its code point,
  `\u{…}` in lower-case hexadecimal.

    • `escape` — one character,
    • `quoted` — a whole string with its quotes,
    • `debugList` — a list of strings in brackets.
-/
import TunnelControl.Text.Unprintable

namespace TunnelControl.Text

/-- The hexadecimal digits of a number, in lower case. -/
def hexDigits (n : Nat) : List Char := Nat.toDigits 16 n

/-- One character of a debug text. -/
def escape (c : Char) : List Char :=
  if c = '"' then ['\\', '"']
  else if c = '\\' then ['\\', '\\']
  else if c = '\n' then ['\\', 'n']
  else if c = '\r' then ['\\', 'r']
  else if c = '\t' then ['\\', 't']
  else if c.toNat = 0 then ['\\', '0']
  else if isUnprintable c then
    ['\\', 'u', Char.ofNat 0x7B] ++ hexDigits c.toNat ++ [Char.ofNat 0x7D]
  else [c]

/-- A string between double quotes, escaped. -/
def quoted (s : String) : String :=
  String.ofList ('"' :: (s.toList.flatMap escape ++ ['"']))

/-- Debug texts between brackets, separated by commas. -/
def debugList (items : List String) : String :=
  "[" ++ String.intercalate ", " items ++ "]"

/-- Debug texts between braces, separated by commas. -/
def debugSet (items : List String) : String :=
  "\x7b" ++ String.intercalate ", " items ++ "\x7d"

/-- The debug text of a record: its name, then its fields by name.  An
`openEnded` record says that fields are left out. -/
def debugRecord (name : String) (fields : List (String × String)) (openEnded : Bool) : String :=
  let shown := fields.map fun f => f.1 ++ ": " ++ f.2
  name ++ " \x7b " ++ String.intercalate ", " (shown ++ if openEnded then [".."] else []) ++ " \x7d"

end TunnelControl.Text
