/-
  TunnelControl.Decimal.Shortest
  ──────────────────────────────
  **THE FEWEST DIGITS THAT READ BACK.**

  A double is written with the fewest decimal digits that are rounded to it
  again; of two such numerals the nearer one, and the greater one if both are
  equally near.  The reals that round to a double form an interval, closed iff
  its mantissa is even.  For each number of digits the two neighbours of the
  value on that decimal grid are tried: if a point of the grid lies in the
  interval, so does one of the two.

    • `shortest`   — digits and power of ten,
    • `positional` — digits with a decimal point and no exponent,
    • `scientific` — one digit, a point, and an exponent.
-/
import TunnelControl.Decimal.Binary64

namespace TunnelControl.Decimal

/-! ## §1. The digits. -/

/-- The interval of reals that round to a double: every bound is a numerator
over the one denominator. -/
structure Interval where
  low : Nat
  value : Nat
  high : Nat
  den : Nat
  closed : Bool

/-- The interval of `mantissa · 2 ^ exponent`.  Below a power of two the
neighbour is only half as far away. -/
def Interval.of (mantissa : Nat) (exponent : Int) : Interval :=
  let below := if mantissa = Nat.pow 2 52 ∧ -1074 < exponent then 1 else 2
  let unit := Nat.pow 2 (exponent - 2).toNat
  { low := (4 * mantissa - below) * unit
    value := 4 * mantissa * unit
    high := (4 * mantissa + 2) * unit
    den := Nat.pow 2 (2 - exponent).toNat
    closed := mantissa % 2 = 0 }

/-- The exponent of the first digit of a positive quotient. -/
def leadingExponent (num den : Nat) : Int :=
  if den ≤ num then ((Nat.toDigits 10 (num / den)).length : Int) - 1
  else -((Nat.toDigits 10 ((den + num - 1) / num - 1)).length : Int)

/-- Is `digits · 10 ^ power` in the interval? -/
def Interval.has (i : Interval) (digits : Nat) (power : Int) : Bool :=
  let up := Nat.pow 10 power.toNat
  let down := Nat.pow 10 (-power).toNat
  let x := digits * up * i.den
  if i.closed then i.low * down ≤ x && x ≤ i.high * down
  else i.low * down < x && x < i.high * down

/-- The numeral on the grid of `10 ^ power` that is in the interval and
nearest to its value; of two equally near ones the greater. -/
def Interval.onGrid? (i : Interval) (power : Int) : Option Nat :=
  let up := Nat.pow 10 power.toNat
  let down := Nat.pow 10 (-power).toNat
  let n := i.value * down / (i.den * up)
  let remainder := i.value * down % (i.den * up)
  match i.has n power, i.has (n + 1) power with
  | true, true => some (if 2 * remainder < i.den * up then n else n + 1)
  | true, false => some n
  | false, true => some (n + 1)
  | false, false => none

/-- Moves zeros at the end of the digits into the power of ten. -/
def dropZeros : Nat → Nat × Int → Nat × Int
  | 0, p => p
  | fuel + 1, (n, k) => if n % 10 = 0 ∧ n ≠ 0 then dropZeros fuel (n / 10, k + 1) else (n, k)

/-- Tries grids of `count`, `count + 1`, … digits. -/
def search (i : Interval) (lead : Int) (count : Nat) : Nat → Nat × Int
  | 0 => (0, 0)
  | fuel + 1 =>
      let power := lead - count + 1
      match i.onGrid? power with
      | some n => dropZeros 20 (n, power)
      | none => search i lead (count + 1) fuel

/-- The fewest digits of a finite double, with their power of ten. -/
def shortest (mantissa : Nat) (exponent : Int) : Nat × Int :=
  if mantissa = 0 then (0, 0)
  else
    let i := Interval.of mantissa exponent
    search i (leadingExponent i.value i.den) 1 17

/-! ## §2. Layouts. -/

/-- Digits with a decimal point and no exponent.  A whole number has no point. -/
def positional (digits : Nat) (power : Int) : List Char :=
  let ds := Nat.toDigits 10 digits
  if 0 ≤ power then ds ++ List.replicate power.toNat '0'
  else
    let places := (-power).toNat
    if ds.length ≤ places then
      '0' :: '.' :: (List.replicate (places - ds.length) '0' ++ ds)
    else ds.take (ds.length - places) ++ '.' :: ds.drop (ds.length - places)

/-- One digit, the others after a point, and a signed exponent of two digits
or more. -/
def scientific (digits : Nat) (power : Int) : List Char :=
  let ds := Nat.toDigits 10 digits
  let e : Int := power + ds.length - 1
  let fraction := if ds.length ≤ 1 then [] else '.' :: ds.drop 1
  let sign := if e < 0 then ['-'] else ['+']
  let zero := if e.natAbs < 10 then ['0'] else []
  ds.take 1 ++ fraction ++ 'e' :: (sign ++ zero ++ Nat.toDigits 10 e.natAbs)

end TunnelControl.Decimal
