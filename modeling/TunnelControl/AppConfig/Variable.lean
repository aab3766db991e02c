/-
  TunnelControl.AppConfig.Variable
  ────────────────────────────────
  **CONFIGURATION IN ENVIRONMENT VARIABLES.**

  A variable whose name begins with `OLM_`, in letters of either case, sets
  the value that the rest of its name leads to; two underscores stand between
  the names of nested tables.  Its text is read as a value: truth values,
  quoted texts, lists, tables and numbers have a form of their own, anything
  else is a text as it stands.

    • `Variable.value`  — the value of a text,
    • `Variable.place?` — where a variable belongs,
    • `Variable.table`  — what all variables say.
-/
import TunnelControl.AppConfig.Value
import TunnelControl.Text.Blank
import TunnelControl.Text.Numeral
import TunnelControl.Text.Parts
import TunnelControl.Text.Scan

namespace TunnelControl.Variable

/-! ## §1. The value of a text. -/

/-- ASCII blanks. -/
def isGap (c : Char) : Bool :=
  c == ' ' || c == '\t' || c == '\n' || c == '\r' || c == '\x0c'

/-- Characters that end a bare text. -/
def isSeparator (c : Char) : Bool :=
  c == ',' || c == '[' || c == ']' || c == Char.ofNat 0x7B || c == Char.ofNat 0x7D

/-- Characters of a bare name. -/
def isNameChar (c : Char) : Bool := c.isAlphanum || c == '_' || c == '-'

/-- The value of a hexadecimal digit. -/
def hexDigit? (c : Char) : Option Nat :=
  if Text.isDigit c then some (c.toNat - 48)
  else if 'a' ≤ c ∧ c ≤ 'f' then some (c.toNat - 87)
  else if 'A' ≤ c ∧ c ≤ 'F' then some (c.toNat - 55)
  else none

/-- The character of a code point, if there is one. -/
def character? (n : Nat) : Option Char :=
  if n.isValidChar then some (Char.ofNat n) else none

/-- Takes the character of a code point in hexadecimal digits. -/
def codePoint (digits : Nat) : Scan Char := do
  let ds ← Scan.take (fun c => (hexDigit? c).isSome) digits
  let n := ds.foldl (fun n c => n * 16 + (hexDigit? c).getD 0) 0
  match character? n with
  | some c => pure c
  | none => failure

/-- Takes what follows a backslash. -/
def escaped : Scan Char := do
  let c ← Scan.next
  if c = '"' then pure '"'
  else if c = '\\' then pure '\\'
  else if c = 'b' then pure '\x08'
  else if c = 'f' then pure '\x0c'
  else if c = 'n' then pure '\n'
  else if c = 'r' then pure '\r'
  else if c = 't' then pure '\t'
  else if c = 'u' then codePoint 4
  else if c = 'U' then codePoint 8
  else failure

/-- Takes a character of a quoted text. -/
def quotedChar : Scan Char := do
  let c ← Scan.next
  if c = '"' then failure
  else if c = '\\' then escaped
  else pure c

/-- Takes a quoted text. -/
def quotedText : Scan String := do
  Scan.char '"'
  let cs ← Scan.many quotedChar
  Scan.char '"'
  return String.ofList cs

/-- Takes one character between apostrophes. -/
def quotedCharacter : Scan String := do
  Scan.char (Char.ofNat 39)
  let c ← Scan.next
  Scan.char (Char.ofNat 39)
  return String.ofList [c]

/-- Digits with at most one point among them, then perhaps an exponent. -/
def magnitude : Scan (Nat × Int) := do
  let whole ← Scan.takeWhile Text.isDigit
  let places ← (do Scan.char '.'; Scan.takeWhile Text.isDigit) <|> pure []
  if whole.isEmpty && places.isEmpty then failure
  let exponent ← (do
      let mark ← Scan.next
      if mark ≠ 'e' ∧ mark ≠ 'E' then failure
      let sign ← Scan.optional? (do
        let c ← Scan.next
        if c = '-' ∨ c = '+' then pure c else failure)
      let digits ← Scan.takeSome Text.isDigit
      let n : Int := Text.digitsValue digits
      return if sign = some '-' then -n else n) <|> pure 0
  return (Text.digitsValue (whole ++ places), exponent - places.length)

/-- A number with a point. -/
def real? (cs : List Char) : Option Binary64 :=
  let (negative, body) := match cs with
    | '-' :: rest => (true, rest)
    | '+' :: rest => (false, rest)
    | rest => (false, rest)
  match magnitude body with
  | some ((digits, exponent), []) => some (Binary64.ofDecimal negative digits exponent)
  | _ => none

/-- The value of a bare text. -/
def bare (cs : List Char) : ConfigValue :=
  let real := if cs.contains '.' then real? cs else none
  match real with
  | some x => .real x
  | none =>
      match Text.natural? cs with
      | some n => if n < UInt64.size then .unsigned n else .text (String.ofList cs)
      | none =>
          match Text.integer? cs with
          | some i => if Int64.minValue.toInt ≤ i then .signed i else .text (String.ofList cs)
          | none => .text (String.ofList cs)

/-- Takes items with commas after them and a closing character; the last
comma may be missing. -/
def itemsUntil {α : Type} (last : Char) (item : Scan α) : Nat → Scan (List α)
  | 0 => failure
  | n + 1 =>
      (do
        Scan.char last
        pure []) <|> do
      let a ← item
      (do
        Scan.char last
        pure [a]) <|> do
      Scan.char ','
      return a :: (← itemsUntil last item n)

/-- Takes a list between an opening and a closing character. -/
def enclosed {α : Type} (first last : Char) (item : Scan α) : Scan (List α) := do
  Scan.char first
  fun cs => itemsUntil last item (cs.length + 1) cs

/-- Takes a name and the value after an equals sign. -/
def member (value : Scan ConfigValue) : Scan (String × ConfigValue) := do
  let _ ← Scan.takeWhile isGap
  let name ← quotedText <|> (String.ofList <$> Scan.takeSome isNameChar)
  let _ ← Scan.takeWhile isGap
  Scan.char '='
  let _ ← Scan.takeWhile isGap
  let v ← value
  let _ ← Scan.takeWhile isGap
  return (name, v)

/-- Takes a value; lists and tables may be nested to a depth. -/
def valueWithin : Nat → Scan ConfigValue
  | 0 => failure
  | depth + 1 => do
      let _ ← Scan.takeWhile isGap
      let v ← (do
          Scan.word ['t', 'r', 'u', 'e']
          pure (.boolean true)) <|> (do
          Scan.word ['f', 'a', 'l', 's', 'e']
          pure (.boolean false)) <|> (do
          let c ← Scan.peek
          if c = some (Char.ofNat 0x7B) then
            let members ← enclosed (Char.ofNat 0x7B) (Char.ofNat 0x7D) (member (valueWithin depth))
            return .table (Entries.ofList members)
          else if c = some '[' then
            return .sequence (← enclosed '[' ']' (valueWithin depth))
          else if c = some '"' then
            return .text (← quotedText)
          else if c = some (Char.ofNat 39) then
            return .text (← quotedCharacter)
          else
            return bare (Text.trimChars (← Scan.takeWhile fun c => !isSeparator c)))
      let _ ← Scan.takeWhile isGap
      return v

/-- The value of a text.  A text with something left over stands for itself. -/
def value (s : String) : ConfigValue :=
  ((valueWithin (s.length + 1)).run? s).getD (.text s)

/-! ## §2. The place of a variable. -/

/-- The beginning of the names of variables that count. -/
def mark : List Char := ['O', 'L', 'M', '_']

/-- Replaces two underscores by a dot, from left to right. -/
def dotted : List Char → List Char
  | '_' :: '_' :: rest => '.' :: dotted rest
  | c :: rest => c :: dotted rest
  | [] => []

/-- The names that lead to the value of a variable. -/
def place? (name : String) : Option (List String) :=
  let cs := Text.trimChars name.toList
  if (cs.take mark.length).map Char.toUpper = mark then
    let names := Text.splitString '.'
      (String.ofList ((dotted (cs.drop mark.length)).map Char.toLower))
    if names.contains "" then none else some names
  else none

/-- A value in nested tables. -/
def nested (v : ConfigValue) : List String → ConfigValue
  | [] => v
  | name :: rest => .table [(name, nested v rest)]

/-- What variables say, each laid over those before it. -/
def table (environment : List (String × String)) : ConfigValue :=
  environment.foldl (fun t e =>
    match place? e.1 with
    | some names => t.combine (nested (value e.2) names)
    | none => t) (.table [])

end TunnelControl.Variable
