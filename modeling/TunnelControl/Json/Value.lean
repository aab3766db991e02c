/-
  TunnelControl.Json.Value
  ────────────────────────
  **JSON VALUES AND THEIR TWO LAYOUTS.**

  What this library writes as JSON holds no fractions, so a number is an
  integer.  A record keeps its members in the order they were given.

    • `compact` — no blanks at all, the form that crosses the engine boundary,
    • `pretty`  — one member or element a line, indented by two spaces,
    • `sorted`  — members of every record in order of their names.
-/
import TunnelControl.Entries
import TunnelControl.Text.Numeral

namespace TunnelControl.Json

/-- A JSON value without fractions. -/
inductive Value where
  | null
  | boolean (b : Bool)
  | integer (i : Int)
  | text (s : String)
  | sequence (items : List Value)
  | record (members : List (String × Value))

/-! ## §1. Strings. -/

/-- A hexadecimal digit in lower case. -/
def hexDigit (n : Nat) : Char :=
  if n < 10 then Char.ofNat (48 + n) else Char.ofNat (87 + n)

/-- One character inside a JSON string: the quote, the backslash and the
control characters below the space are escaped. -/
def escape (c : Char) : List Char :=
  if c = '"' then ['\\', '"']
  else if c = '\\' then ['\\', '\\']
  else if c = '\x08' then ['\\', 'b']
  else if c = '\x0c' then ['\\', 'f']
  else if c = '\n' then ['\\', 'n']
  else if c = '\r' then ['\\', 'r']
  else if c = '\t' then ['\\', 't']
  else if c.toNat < 0x20 then
    ['\\', 'u', '0', '0', hexDigit (c.toNat / 16), hexDigit (c.toNat % 16)]
  else [c]

/-- A JSON string with its quotes. -/
def quote (s : String) : List Char :=
  '"' :: (s.toList.flatMap escape ++ ['"'])

/-! ## §2. The compact layout. -/

mutual

/-- A value without blanks. -/
def Value.compactChars : Value → List Char
  | .null => ['n', 'u', 'l', 'l']
  | .boolean true => ['t', 'r', 'u', 'e']
  | .boolean false => ['f', 'a', 'l', 's', 'e']
  | .integer i => Text.signedDecimal i
  | .text s => quote s
  | .sequence [] => ['[', ']']
  | .sequence (v :: vs) => '[' :: (v.compactChars ++ compactItems vs)
  | .record [] => [Char.ofNat 0x7B, Char.ofNat 0x7D]
  | .record ((k, v) :: ms) =>
      Char.ofNat 0x7B :: (quote k ++ ':' :: (v.compactChars ++ compactMembers ms))

/-- The elements after the first, with the closing bracket. -/
def compactItems : List Value → List Char
  | [] => [']']
  | v :: vs => ',' :: (v.compactChars ++ compactItems vs)

/-- The members after the first, with the closing brace. -/
def compactMembers : List (String × Value) → List Char
  | [] => [Char.ofNat 0x7D]
  | (k, v) :: ms => ',' :: (quote k ++ ':' :: (v.compactChars ++ compactMembers ms))

end

/-- The text of a value without blanks. -/
def Value.compact (v : Value) : String := String.ofList v.compactChars

/-! ## §3. The pretty layout. -/

/-- The beginning of a line at a depth. -/
def newLine (depth : Nat) : List Char := '\n' :: List.replicate (2 * depth) ' '

mutual

/-- A value over several lines; `depth` is that of the line it begins on. -/
def Value.prettyChars (depth : Nat) : Value → List Char
  | .null => ['n', 'u', 'l', 'l']
  | .boolean true => ['t', 'r', 'u', 'e']
  | .boolean false => ['f', 'a', 'l', 's', 'e']
  | .integer i => Text.signedDecimal i
  | .text s => quote s
  | .sequence [] => ['[', ']']
  | .sequence (v :: vs) =>
      '[' :: (newLine (depth + 1) ++ v.prettyChars (depth + 1) ++ prettyItems depth vs)
  | .record [] => [Char.ofNat 0x7B, Char.ofNat 0x7D]
  | .record ((k, v) :: ms) =>
      Char.ofNat 0x7B :: (newLine (depth + 1) ++ quote k
        ++ ':' :: ' ' :: (v.prettyChars (depth + 1) ++ prettyMembers depth ms))

/-- The elements after the first, with the closing bracket on its own line. -/
def prettyItems (depth : Nat) : List Value → List Char
  | [] => newLine depth ++ [']']
  | v :: vs => ',' :: (newLine (depth + 1) ++ v.prettyChars (depth + 1) ++ prettyItems depth vs)

/-- The members after the first, with the closing brace on its own line. -/
def prettyMembers (depth : Nat) : List (String × Value) → List Char
  | [] => newLine depth ++ [Char.ofNat 0x7D]
  | (k, v) :: ms =>
      ',' :: (newLine (depth + 1) ++ quote k
        ++ ':' :: ' ' :: (v.prettyChars (depth + 1) ++ prettyMembers depth ms))

end

/-- The text of a value over several lines. -/
def Value.pretty (v : Value) : String := String.ofList (v.prettyChars 0)

/-! ## §4. Members in order. -/

mutual

/-- The value with the members of every record in order of their names. -/
def Value.sorted : Value → Value
  | .sequence vs => .sequence (sortedItems vs)
  | .record ms => .record (sortedMembers ms)
  | v => v

/-- Every element sorted. -/
def sortedItems : List Value → List Value
  | [] => []
  | v :: vs => v.sorted :: sortedItems vs

/-- The members by name, each sorted; a later member of the same name wins. -/
def sortedMembers : List (String × Value) → Entries Value
  | [] => []
  | (k, v) :: ms =>
      let rest := sortedMembers ms
      if (Entries.get? k rest).isSome then rest else Entries.insert k v.sorted rest

end

end TunnelControl.Json
