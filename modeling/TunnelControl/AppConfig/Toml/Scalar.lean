/-
  TunnelControl.AppConfig.Toml.Scalar
  ───────────────────────────────────
  **NUMBERS, TRUTH VALUES AND TIMES OF A TOML DOCUMENT.**

    • `moment`  — a date, a time, or both; its parts are checked,
    • `real`, `integer`, `truth`,
    • `scalar`  — any of them.
-/
import TunnelControl.AppConfig.Toml.Text

namespace TunnelControl.Toml

/-! ## §1. Times. -/

/-- Takes a number of digits. -/
def digits (count : Nat) : Scan Nat := Text.digitsValue <$> Scan.take Text.isDigit count

/-- Takes a number of digits whose value is within bounds. -/
def within (count low high : Nat) : Scan Nat := do
  let n ← digits count
  if low ≤ n ∧ n ≤ high then pure n else failure

/-- The number of days of a month. -/
def daysOf (year month : Nat) : Nat :=
  if month = 2 then
    if year % 4 = 0 ∧ (year % 100 ≠ 0 ∨ year % 400 = 0) then 29 else 28
  else if month = 4 ∨ month = 6 ∨ month = 9 ∨ month = 11 then 30
  else 31

/-- Takes a date. -/
def date : Scan Unit := do
  let year ← digits 4
  Scan.char '-'
  let month ← within 2 1 12
  Scan.char '-'
  let _ ← within 2 1 (daysOf year month)

/-- Takes a time of day. -/
def timeOfDay : Scan Unit := do
  let _ ← within 2 0 23
  Scan.char ':'
  let _ ← within 2 0 59
  Scan.char ':'
  let _ ← within 2 0 60
  let _ ← Scan.optional? do
    Scan.char '.'
    Scan.takeSome Text.isDigit

/-- Takes the distance from universal time. -/
def offset : Scan Unit :=
  Scan.char 'Z' <|> Scan.char 'z' <|> do
    Scan.char '+' <|> Scan.char '-'
    let _ ← within 2 0 23
    Scan.char ':'
    let _ ← within 2 0 59

/-- Takes a date, a time, or both. -/
def moment : Scan Unit :=
  (do
    date
    let _ ← Scan.optional? do
      Scan.char 'T' <|> Scan.char 't' <|> Scan.char ' '
      timeOfDay
      Scan.optional? offset) <|> timeOfDay

/-! ## §2. Numbers. -/

/-- Takes a sign; it tells whether it was a minus. -/
def sign : Scan Bool :=
  (do
    Scan.char '-'
    pure true) <|> (do
    Scan.char '+'
    pure false) <|> pure false

/-- Takes digits of a class; single underscores may stand between them. -/
def digitRun (p : Char → Bool) : Scan (List Char) := do
  let first ← Scan.take p 1
  let rest ← Scan.many (Scan.take p 1 <|> do
    Scan.char '_'
    Scan.take p 1)
  return first ++ rest.flatten

/-- Takes digits without a zero in front. -/
def plainRun : Scan (List Char) := do
  if (← Scan.peek) = some '0' then Scan.take (· == '0') 1 else digitRun Text.isDigit

/-- Takes an exponent. -/
def exponent : Scan Int := do
  Scan.char 'e' <|> Scan.char 'E'
  let negative ← sign
  let n : Int := Text.digitsValue (← digitRun Text.isDigit)
  return if negative then -n else n

/-- Takes a number with a point or an exponent, or one that is none. -/
def real : Scan Binary64 := do
  let negative ← sign
  (do
    Scan.word ['i', 'n', 'f']
    pure (.infinite negative)) <|> (do
    Scan.word ['n', 'a', 'n']
    pure .notANumber) <|> do
  let whole ← plainRun
  let places ← (do
    Scan.char '.'
    digitRun Text.isDigit) <|> pure []
  let power ← if places.isEmpty then exponent else exponent <|> pure 0
  let x := Binary64.ofDecimal negative (Text.digitsValue (whole ++ places))
    (power - places.length)
  if x = .infinite false then failure else pure x

/-- Takes digits in a base after a zero and a letter. -/
def based (letter : Char) (base : Nat) : Scan Int := do
  Scan.word ['0', letter]
  let ds ← digitRun fun c => match Variable.hexDigit? c with
    | some d => d < base
    | none => false
  return ds.foldl (fun n c => n * base + (Variable.hexDigit? c).getD 0) (0 : Nat)

/-- Takes a whole number of at most 64 bits. -/
def integer : Scan Int := do
  let i ← based 'x' 16 <|> based 'o' 8 <|> based 'b' 2 <|> do
    let negative ← sign
    let n : Int := Text.digitsValue (← plainRun)
    pure (if negative then -n else n)
  if Int64.minValue.toInt ≤ i ∧ i ≤ Int64.maxValue.toInt then pure i else failure

/-! ## §3. All of them. -/

/-- Takes a truth value. -/
def truth : Scan Bool :=
  (do
    Scan.word ['t', 'r', 'u', 'e']
    pure true) <|> do
    Scan.word ['f', 'a', 'l', 's', 'e']
    pure false

/-- Takes a value that has no parts.  A date or time counts as a table
without members that matter. -/
def scalar : Scan ConfigValue :=
  (.text <$> text) <|> (.boolean <$> truth) <|> (do
    moment
    pure (.table [])) <|> (.real <$> real) <|> (.signed <$> integer)

end TunnelControl.Toml
