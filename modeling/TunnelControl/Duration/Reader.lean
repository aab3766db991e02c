/-
  TunnelControl.Duration.Reader
  ─────────────────────────────
  **DURATIONS AS A PERSON WRITES THEM.**

  A duration is a row of spans, each a number and a unit: `1h 30min`, `1.5s`.
  Blanks may stand inside a number and between spans; a digit after a unit
  begins the next span.  `0` alone is no time at all.

  The reader is a machine that takes one character at a time together with
  its offset in bytes, so that a complaint can name the place.

    • `TimeUnit`, `TimeUnit.named?`      — the units and all their names,
    • `ReadError`, with `message` — what can be wrong,
    • `step`, `finish`, `parse`  — the machine and the whole reader.
-/
import TunnelControl.Duration.Basic
import TunnelControl.Text.Blank
import TunnelControl.Text.Quoted

namespace TunnelControl.Duration

/-! ## §1. Units. -/

/-- A unit of time. -/
inductive TimeUnit where
  | nanosecond
  | microsecond
  | millisecond
  | second
  | minute
  | hour
  | day
  | week
  | month
  | year
deriving DecidableEq

/-- The unit of a name. -/
def TimeUnit.named? (name : String) : Option TimeUnit :=
  if ["nanos", "nsec", "ns"].contains name then some nanosecond
  else if ["usec", "us", "µs"].contains name then some microsecond
  else if ["millis", "msec", "ms"].contains name then some millisecond
  else if ["seconds", "second", "secs", "sec", "s"].contains name then some second
  else if ["minutes", "minute", "min", "mins", "m"].contains name then some minute
  else if ["hours", "hour", "hr", "hrs", "h"].contains name then some hour
  else if ["days", "day", "d"].contains name then some day
  else if ["weeks", "week", "wk", "wks", "w"].contains name then some week
  else if ["months", "month", "M"].contains name then some month
  else if ["years", "year", "yr", "yrs", "y"].contains name then some year
  else none

/-- The factor of a unit in seconds and in nanoseconds; one of the two is zero. -/
def TimeUnit.scale : TimeUnit → Nat × Nat
  | nanosecond => (0, 1)
  | microsecond => (0, 1000)
  | millisecond => (0, 1000000)
  | second => (1, 0)
  | minute => (60, 0)
  | hour => (3600, 0)
  | day => (86400, 0)
  | week => (604800, 0)
  | month => (2630016, 0)
  | year => (31557600, 0)

/-- The factor of a fraction of a unit, in seconds and in nanoseconds.
Fractions up to the minute are resolved to nanoseconds, longer ones to
seconds; a fraction of a nanosecond does not exist. -/
def TimeUnit.fractionScale? : TimeUnit → Option (Nat × Nat)
  | nanosecond => none
  | second => some (0, 1000000000)
  | minute => some (0, 60000000000)
  | u => some u.scale

/-! ## §2. What can be wrong. -/

/-- Why a text is no duration. -/
inductive ReadError where
  | empty
  /-- A span does not begin with a digit. -/
  | numberExpected (offset : Nat)
  /-- A character that belongs neither to a number nor to a unit. -/
  | invalidCharacter (offset : Nat)
  | unitMissing (number : Nat)
  | unknownUnit (name : String)
  /-- Too large, or finer than the resolution of its unit. -/
  | unrepresentable
deriving DecidableEq

/-- The wording of a complaint. -/
def ReadError.message : ReadError → String
  | empty => "value was empty"
  | numberExpected offset => "expected number at " ++ Text.ofNat offset
  | invalidCharacter offset => "invalid character at " ++ Text.ofNat offset
  | unitMissing number =>
      "time unit needed, for example " ++ Text.ofNat number ++ "sec or "
        ++ Text.ofNat number ++ "ms"
  | unknownUnit name =>
      "unknown time unit " ++ Text.quoted name
        ++ ", supported units: ns, us/µs, ms, sec, min, hours, days, weeks, months, years"
        ++ " (and few variations)"
  | unrepresentable =>
      "number is too large or cannot be represented without a lack of precision"
        ++ " (values below 1ns are not supported)"

/-! ## §3. Adding a span. -/

/-- A number that fits 64 bits. -/
def word (n : Nat) : Except ReadError Nat :=
  if n < UInt64.size then .ok n else .error .unrepresentable

/-- Adds seconds and nanoseconds; the nanoseconds and the whole seconds of
the sum fit 64 bits each. -/
def plus (d : Duration) (seconds nanoseconds : Nat) : Except ReadError Duration := do
  let _ ← word (d.subsecond + nanoseconds)
  let sum : Duration := ⟨d.nanoseconds + seconds * perSecond + nanoseconds⟩
  let _ ← word sum.seconds
  return sum

/-- A quotient that has to be exact. -/
def exactly (num den : Nat) : Except ReadError Nat :=
  if num % den = 0 then .ok (num / den) else .error .unrepresentable

/-- Adds a span: a number, a fraction as a quotient, and the name of a unit. -/
def addSpan (sum : Duration) (number : Nat) (fraction : Option (Nat × Nat)) (name : String) :
    Except ReadError Duration :=
  if name = "" then .error (.unitMissing number)
  else match TimeUnit.named? name with
    | none => .error (.unknownUnit name)
    | some u => do
        let seconds ← word (number * u.scale.1)
        let nanoseconds ← word (number * u.scale.2)
        let sum ← plus sum seconds nanoseconds
        match fraction with
        | none => return sum
        | some (num, den) =>
            match u.fractionScale? with
            | none => throw .unrepresentable
            | some (s, ns) => do
                let seconds ← exactly (← word (num * s)) den
                let nanoseconds ← exactly (← word (num * ns)) den
                plus sum seconds nanoseconds

/-! ## §4. The machine. -/

/-- What the reader is in the middle of. -/
inductive Reading where
  | gap (start : Nat)
  | number (n : Nat)
  /-- Inside a fraction; `mark` is where a complaint points to. -/
  | fraction (n num den mark : Nat)
  /-- Inside the name of a unit; its letters so far, last one first. -/
  | unit (n : Nat) (fraction : Option (Nat × Nat)) (letters : List Char)

/-- A letter that may stand in the name of a unit. -/
def isUnitLetter (c : Char) : Bool :=
  ('a' ≤ c && c ≤ 'z') || ('A' ≤ c && c ≤ 'Z') || c == 'µ'

/-- The name of a unit from its letters, last one first. -/
def unitName (letters : List Char) : String := String.ofList letters.reverse

/-- One character at an offset. -/
def step (sum : Duration) (reading : Reading) (offset : Nat) (c : Char) :
    Except ReadError (Duration × Reading) :=
  match reading with
  | .gap start =>
      if Text.isDigit c then .ok (sum, .number (Text.digitValue c))
      else if Text.isBlank c then .ok (sum, .gap start)
      else .error (.numberExpected start)
  | .number n =>
      if Text.isDigit c then do
        let n ← word (10 * n + Text.digitValue c)
        return (sum, .number n)
      else if Text.isBlank c then .ok (sum, .number n)
      else if isUnitLetter c then .ok (sum, .unit n none [c])
      else if c = '.' then .ok (sum, .fraction n 0 1 offset)
      else .error (.invalidCharacter offset)
  | .fraction n num den mark =>
      if Text.isDigit c then do
        let den ← word (10 * den)
        let num ← word (10 * num + Text.digitValue c)
        return (sum, .fraction n num den (offset + 1))
      else if Text.isBlank c then .ok (sum, .fraction n num den (offset + c.utf8Size))
      else if isUnitLetter c then
        if den = 1 then .error (.invalidCharacter mark)
        else .ok (sum, .unit n (some (num, den)) [c])
      else .error (.invalidCharacter mark)
  | .unit n fraction letters =>
      if Text.isDigit c then do
        let sum ← addSpan sum n fraction (unitName letters)
        return (sum, .number (Text.digitValue c))
      else if Text.isBlank c then do
        let sum ← addSpan sum n fraction (unitName letters)
        return (sum, .gap (offset + c.utf8Size))
      else if isUnitLetter c then .ok (sum, .unit n fraction (c :: letters))
      else .error (.invalidCharacter offset)

/-- The end of the text. -/
def finish (sum : Duration) : Reading → Except ReadError Duration
  | .gap _ => .ok sum
  | .number n => addSpan sum n none ""
  | .fraction n num den mark =>
      if den = 1 then .error (.invalidCharacter mark) else addSpan sum n (some (num, den)) ""
  | .unit n fraction letters => addSpan sum n fraction (unitName letters)

/-- Runs the machine over a text from an offset on. -/
def run (sum : Duration) (reading : Reading) (offset : Nat) :
    List Char → Except ReadError Duration
  | [] => finish sum reading
  | c :: cs => do
      let (sum, reading) ← step sum reading offset c
      run sum reading (offset + c.utf8Size) cs

/-- Reads a duration from a text without outer blanks. -/
def parseTrimmed (cs : List Char) : Except ReadError Duration :=
  if cs = ['0'] then .ok zero
  else if cs.all Text.isBlank then .error .empty
  else run zero (.gap 0) 0 cs

/-- Reads a duration; outer blanks are ignored. -/
def parse (s : String) : Except ReadError Duration := parseTrimmed (Text.trimChars s.toList)

end TunnelControl.Duration
