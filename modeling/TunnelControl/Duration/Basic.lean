/-
  TunnelControl.Duration.Basic
  ────────────────────────────
  **SPANS OF TIME.**

  A span is a number of nanoseconds; its whole seconds fit 64 bits.  It has
  two texts: the one that the engine parses, in the largest unit that loses
  nothing, and the debug text, with a decimal fraction.

    • `Duration`, `Duration.seconds`, `Duration.subsecond`,
    • `Duration.engineText` — `3s`, `1500ms`, `250us`, `7ns`,
    • `Duration.debugText`  — `3s`, `1.5s`, `250µs`, `7ns`.
-/
import TunnelControl.Text.Numeral

namespace TunnelControl

/-- A span of time. -/
structure Duration where
  /-- Its length in nanoseconds. -/
  nanoseconds : Nat
deriving DecidableEq

namespace Duration

/-- The number of nanoseconds in a second. -/
def perSecond : Nat := 1000000000

/-- No time at all. -/
def zero : Duration := ⟨0⟩

/-- A number of seconds and nanoseconds. -/
def ofParts (seconds nanoseconds : Nat) : Duration := ⟨seconds * perSecond + nanoseconds⟩

/-- A number of milliseconds. -/
def ofMilliseconds (ms : Nat) : Duration := ⟨ms * 1000000⟩

/-- Its whole seconds. -/
def seconds (d : Duration) : Nat := d.nanoseconds / perSecond

/-- Its nanoseconds beyond the whole seconds. -/
def subsecond (d : Duration) : Nat := d.nanoseconds % perSecond

/-- No time at all? -/
def isZero (d : Duration) : Bool := d.nanoseconds == 0

/-- The text in the largest unit of seconds, milliseconds, microseconds and
nanoseconds that loses nothing. -/
def engineText (d : Duration) : String :=
  let n := d.nanoseconds
  if n % perSecond = 0 then Text.ofNat (n / perSecond) ++ "s"
  else if n % 1000000 = 0 then Text.ofNat (n / 1000000) ++ "ms"
  else if n % 1000 = 0 then Text.ofNat (n / 1000) ++ "us"
  else Text.ofNat n ++ "ns"

/-- A whole part and a fraction of so many places, without zeros at its end. -/
def decimalText (whole fraction places : Nat) : String :=
  let digits := Text.decimal fraction
  let padded := List.replicate (places - digits.length) '0' ++ digits
  let kept := (padded.reverse.dropWhile (· = '0')).reverse
  Text.ofNat whole ++ if kept.isEmpty then "" else "." ++ String.ofList kept

/-- The debug text: the largest unit of which there is at least one. -/
def debugText (d : Duration) : String :=
  let n := d.nanoseconds
  if perSecond ≤ n then decimalText (n / perSecond) (n % perSecond) 9 ++ "s"
  else if 1000000 ≤ n then decimalText (n / 1000000) (n % 1000000) 6 ++ "ms"
  else if 1000 ≤ n then decimalText (n / 1000) (n % 1000) 3 ++ "µs"
  else Text.ofNat n ++ "ns"

end Duration

end TunnelControl
