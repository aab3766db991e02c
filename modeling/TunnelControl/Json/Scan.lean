/-
  TunnelControl.Json.Scan
  ───────────────────────
  **THE WORDS OF A JSON TEXT.**

  Blanks, literals, strings and numbers, read from the front of a text.
  Every scanner says whether the text ended too early or is malformed.

    • `readText`   — the rest of a string after its opening quote,
    • `readNumber` — an integer of at most 64 bits, or else a double,
    • `skipValue`  — any one value, of any depth, without looking into it.
-/
import TunnelControl.Json.ReadError

namespace TunnelControl.Json

/-! ## §1. Blanks and literals. -/

/-- Space, line feed, carriage return and tab separate JSON words. -/
def isSpace (c : Char) : Bool := c == ' ' || c == '\n' || c == '\r' || c == '\t'

/-- The text from its first character that is no blank. -/
def skipSpaces (cs : List Char) : List Char := cs.dropWhile isSpace

/-- The characters of a literal after its first. -/
def readWord : List Char → List Char → Except ReadError (List Char)
  | [], cs => .ok cs
  | _ :: _, [] => .error .endOfText
  | w :: ws, c :: cs => if w = c then readWord ws cs else .error .malformed

/-! ## §2. Strings. -/

/-- The value of a hexadecimal digit of either case. -/
def hexValue? (c : Char) : Option Nat :=
  if '0' ≤ c ∧ c ≤ '9' then some (c.toNat - 48)
  else if 'a' ≤ c ∧ c ≤ 'f' then some (c.toNat - 87)
  else if 'A' ≤ c ∧ c ≤ 'F' then some (c.toNat - 55)
  else none

/-- The value of four hexadecimal digits. -/
def hexUnit? : List Char → Option (Nat × List Char)
  | a :: b :: c :: d :: rest => do
      let a ← hexValue? a
      let b ← hexValue? b
      let c ← hexValue? c
      let d ← hexValue? d
      return (((a * 16 + b) * 16 + c) * 16 + d, rest)
  | _ => none

/-- Four hexadecimal digits.  Fewer than four bytes before the end of the
text are an early end, whatever they are. -/
def readHexUnit : Reader Nat := fun cs =>
  match hexUnit? cs with
  | some r => .ok r
  | none =>
      if (String.ofList (cs.take 4)).utf8ByteSize < 4 then .error .endOfText else .error .malformed

/-- The character of an escape `\u`, after these two characters.  Beyond the
basic plane it is written as a high and a low surrogate; neither stands
alone. -/
def readUnicode (cs : List Char) : Except ReadError (Char × List Char) := do
  let (high, cs) ← readHexUnit cs
  if 0xDC00 ≤ high ∧ high ≤ 0xDFFF then .error .malformed
  else if high < 0xD800 ∨ 0xDBFF < high then .ok (Char.ofNat high, cs)
  else
    match cs with
    | [] => .error .endOfText
    | '\\' :: [] => .error .endOfText
    | '\\' :: 'u' :: cs => do
        let (low, cs) ← readHexUnit cs
        if low < 0xDC00 ∨ 0xDFFF < low then .error .malformed
        else .ok (Char.ofNat (0x10000 + (high - 0xD800) * 0x400 + (low - 0xDC00)), cs)
    | _ => .error .malformed

/-- The character that a one-letter escape stands for. -/
def shortEscape? (c : Char) : Option Char :=
  if c = '"' ∨ c = '\\' ∨ c = '/' then some c
  else if c = 'b' then some '\x08'
  else if c = 'f' then some '\x0c'
  else if c = 'n' then some '\n'
  else if c = 'r' then some '\r'
  else if c = 't' then some '\t'
  else none

/-- The character of an escape, after its backslash. -/
def readEscape : List Char → Except ReadError (Char × List Char)
  | [] => .error .endOfText
  | c :: cs =>
      if c = 'u' then readUnicode cs
      else match shortEscape? c with
        | some e => .ok (e, cs)
        | none => .error .malformed

/-- The characters of a string after its opening quote; the first argument
bounds their number. -/
def readChars : Nat → List Char → Except ReadError (List Char × List Char)
  | 0, _ => .error .endOfText
  | _ + 1, [] => .error .endOfText
  | n + 1, c :: cs =>
      if c = '"' then .ok ([], cs)
      else if c = '\\' then do
        let (e, cs) ← readEscape cs
        let (t, cs) ← readChars n cs
        return (e :: t, cs)
      else if c.toNat < 0x20 then .error .malformed
      else do
        let (t, cs) ← readChars n cs
        return (c :: t, cs)

/-- A string after its opening quote. -/
def readText : Reader String := fun cs => do
  let (t, cs) ← readChars (cs.length + 1) cs
  return (String.ofList t, cs)

/-- Skips a string after its opening quote.  Its escapes are well formed, but
a surrogate may stand alone. -/
def skipText : Nat → List Char → Except ReadError (List Char)
  | 0, _ => .error .endOfText
  | _ + 1, [] => .error .endOfText
  | n + 1, c :: cs =>
      if c = '"' then .ok cs
      else if c = '\\' then
        match cs with
        | [] => .error .endOfText
        | 'u' :: cs => do
            let (_, cs) ← readHexUnit cs
            skipText n cs
        | e :: cs => if (shortEscape? e).isSome then skipText n cs else .error .malformed
      else if c.toNat < 0x20 then .error .malformed
      else skipText n cs

/-! ## §3. Numbers. -/

/-- A number as it is read. -/
inductive Number where
  /-- A whole number of at most 64 bits, with or without a sign. -/
  | integer (i : Int)
  | real (x : Binary64)

/-- What was met, for a complaint. -/
def Number.found : Number → Found
  | .integer i => .integer i
  | .real x => .real x

/-- Adds digits to a significand while it stays below `limit`; tells how many
were added. -/
def absorb (limit : Nat) : Nat → Nat → List Char → Nat × Nat × List Char
  | significand, count, [] => (significand, count, [])
  | significand, count, c :: cs =>
      let next := 10 * significand + Text.digitValue c
      if Text.isDigit c ∧ next < limit then absorb limit next (count + 1) cs
      else (significand, count, c :: cs)

/-- Divides by a power of ten; one that no double holds is taken in steps. -/
def scaleDown : Nat → Binary64 → Nat → Binary64
  | 0, x, _ => x
  | fuel + 1, x, power =>
      if power ≤ 308 then x.dividedBy (Binary64.powerOfTen power)
      else if x.isZero then x
      else scaleDown fuel (x.dividedBy (Binary64.powerOfTen 308)) (power - 308)

/-- The double of a significand and a power of ten: one multiplication or
division by the double nearest to that power. -/
def assemble (negative : Bool) (significand : Nat) (power : Int) : Except ReadError Binary64 :=
  let x := Binary64.ofNat significand
  let signed := fun (y : Binary64) => if negative then y.negate else y
  if power < 0 then .ok (signed (scaleDown 8 x power.natAbs))
  else if power ≤ 308 then
    let y := x.times (Binary64.powerOfTen power.natAbs)
    if y.isInfinite then .error .malformed else .ok (signed y)
  else if x.isZero then .ok (signed x)
  else .error .malformed

/-- The exponent of a number, after its `e`. -/
def readExponent (negative : Bool) (significand : Nat) (power : Int) : Reader Binary64 := fun cs =>
  let (down, cs) := match cs with
    | '+' :: cs => (false, cs)
    | '-' :: cs => (true, cs)
    | cs => (false, cs)
  match cs with
  | [] => .error .endOfText
  | c :: _ =>
      if !Text.isDigit c then .error .malformed
      else
        let (e, _, rest) := absorb (Nat.pow 2 31) 0 0 cs
        match rest with
        | d :: _ =>
            if Text.isDigit d then
              if significand ≠ 0 ∧ !down then .error .malformed
              else .ok (.finite negative 0 (-1074), rest.dropWhile Text.isDigit)
            else (assemble negative significand (if down then power - e else power + e)).map (·, rest)
        | [] => (assemble negative significand (if down then power - e else power + e)).map (·, rest)

/-- What follows the digits of a number: an exponent or nothing. -/
def readPower (negative : Bool) (significand : Nat) (power : Int) : Reader Binary64 := fun cs =>
  match cs with
  | c :: rest =>
      if c = 'e' ∨ c = 'E' then readExponent negative significand power rest
      else (assemble negative significand power).map (·, cs)
  | [] => (assemble negative significand power).map (·, cs)

/-- The digits after a decimal point.  Digits that no 64-bit significand
holds have no influence. -/
def readFraction (negative : Bool) (significand : Nat) (power : Int) : Reader Binary64 := fun cs =>
  let (s, count, rest) := absorb UInt64.size significand 0 cs
  match rest with
  | [] => if count = 0 then .error .endOfText else readPower negative s (power - count) rest
  | c :: _ =>
      if Text.isDigit c then readPower negative s (power - count) (rest.dropWhile Text.isDigit)
      else if count = 0 then .error .malformed
      else readPower negative s (power - count) rest

/-- A number after its sign. -/
def readMagnitude (negative : Bool) : Reader Number := fun cs =>
  match cs with
  | [] => .error .endOfText
  | c :: after =>
      if !Text.isDigit c then .error .malformed
      else
        let (significand, _, rest) :=
          if c = '0' then (0, 1, after) else absorb UInt64.size 0 0 cs
        match rest with
        | '.' :: more => (readFraction negative significand 0 more).map fun r => (.real r.1, r.2)
        | d :: more =>
            if d = 'e' ∨ d = 'E' then
              (readExponent negative significand 0 more).map fun r => (.real r.1, r.2)
            else if Text.isDigit d then
              if c = '0' then .error .malformed
              else
                let power : Int := (rest.takeWhile Text.isDigit).length
                match rest.dropWhile Text.isDigit with
                | '.' :: more =>
                    (readFraction negative significand power more).map fun r => (.real r.1, r.2)
                | more => (readPower negative significand power more).map fun r => (.real r.1, r.2)
            else .ok (whole significand, rest)
        | [] => .ok (whole significand, rest)
where
  whole (significand : Nat) : Number :=
    if !negative then .integer significand
    else if significand = 0 ∨ Nat.pow 2 63 < significand then .real (Binary64.ofNat significand).negate
    else .integer (-(significand : Int))

/-- A number from its first character. -/
def readNumber : Reader Number
  | '-' :: cs => readMagnitude true cs
  | cs => readMagnitude false cs

/-- Skips the digits of an exponent, after its `e`. -/
def skipExponent (cs : List Char) : Except ReadError (List Char) :=
  let cs := match cs with
    | '+' :: cs => cs
    | '-' :: cs => cs
    | cs => cs
  match cs with
  | c :: cs => if Text.isDigit c then .ok (cs.dropWhile Text.isDigit) else .error .malformed
  | [] => .error .malformed

/-- Skips an exponent if there is one. -/
def skipPower (cs : List Char) : Except ReadError (List Char) :=
  match cs with
  | 'e' :: cs => skipExponent cs
  | 'E' :: cs => skipExponent cs
  | cs => .ok cs

/-- Skips a number after its sign; a number is never too large here, and one
that is cut off is malformed. -/
def skipMagnitude (cs : List Char) : Except ReadError (List Char) :=
  match cs with
  | [] => .error .malformed
  | c :: after =>
      if !Text.isDigit c then .error .malformed
      else
        let rest := if c = '0' then after else after.dropWhile Text.isDigit
        match rest with
        | '.' :: more =>
            match more with
            | d :: _ =>
                if Text.isDigit d then skipPower (more.dropWhile Text.isDigit)
                else .error .malformed
            | [] => .error .malformed
        | d :: _ => if Text.isDigit d then .error .malformed else skipPower rest
        | [] => .ok rest

/-! ## §4. Skipping a value. -/

/-- The colon between a name and its value. -/
def readColon (cs : List Char) : Except ReadError (List Char) :=
  match skipSpaces cs with
  | [] => .error .endOfText
  | ':' :: cs => .ok cs
  | _ => .error .malformed

mutual

/-- Skips one value; the first argument bounds the steps. -/
def skipWithin : Nat → List Char → Except ReadError (List Char)
  | 0, _ => .error .endOfText
  | n + 1, cs =>
      match skipSpaces cs with
      | [] => .error .endOfText
      | c :: cs =>
          if c = 'n' then readWord ['u', 'l', 'l'] cs
          else if c = 't' then readWord ['r', 'u', 'e'] cs
          else if c = 'f' then readWord ['a', 'l', 's', 'e'] cs
          else if c = '-' then skipMagnitude cs
          else if Text.isDigit c then skipMagnitude (c :: cs)
          else if c = '"' then skipText (cs.length + 1) cs
          else if c = '[' then
            match skipSpaces cs with
            | [] => .error .endOfText
            | ']' :: cs => .ok cs
            | cs => skipItems n cs
          else if c = Char.ofNat 0x7B then
            match skipSpaces cs with
            | [] => .error .endOfText
            | d :: cs => if d = Char.ofNat 0x7D then .ok cs else skipMembers n (d :: cs)
          else .error .malformed

/-- Skips the elements of an array up to its end. -/
def skipItems : Nat → List Char → Except ReadError (List Char)
  | 0, _ => .error .endOfText
  | n + 1, cs => do
      let cs ← skipWithin n cs
      match skipSpaces cs with
      | [] => .error .endOfText
      | ']' :: cs => .ok cs
      | ',' :: cs => skipItems n cs
      | _ => .error .malformed

/-- Skips the members of an object up to its end. -/
def skipMembers : Nat → List Char → Except ReadError (List Char)
  | 0, _ => .error .endOfText
  | n + 1, cs =>
      match skipSpaces cs with
      | [] => .error .endOfText
      | '"' :: cs => do
          let cs ← skipText (cs.length + 1) cs
          let cs ← readColon cs
          let cs ← skipWithin n cs
          match skipSpaces cs with
          | [] => .error .endOfText
          | c :: cs =>
              if c = Char.ofNat 0x7D then .ok cs
              else if c = ',' then skipMembers n cs
              else .error .malformed
      | _ => .error .malformed

end

/-- Skips one value of any depth. -/
def skipValue (cs : List Char) : Except ReadError (List Char) :=
  skipWithin (2 * cs.length + 2) cs

end TunnelControl.Json
