/-
  TunnelControl.Decimal.Binary64
  ──────────────────────────────
  **DOUBLE-PRECISION NUMBERS, EXACTLY.**

  A finite double is a sign and `mantissa · 2 ^ exponent` with a mantissa of
  at most 53 bits and an exponent of at least −1074.  Every operation is one
  exact quotient of natural numbers, rounded once to the nearest double, a
  tie going to the even mantissa; what is too large becomes infinite.

    • `roundRatio`  — the one rounding,
    • `ofNat`, `scaleUp`, `scaleDown`, `ofDecimal` — what the readers need.
-/
namespace TunnelControl

/-- A double-precision number. -/
inductive Binary64 where
  /-- The number `± mantissa · 2 ^ exponent`. -/
  | finite (negative : Bool) (mantissa : Nat) (exponent : Int)
  /-- Beyond the largest finite double. -/
  | infinite (negative : Bool)
  /-- No number at all. -/
  | notANumber
deriving DecidableEq

namespace Binary64

/-! ## §1. Rounding a quotient. -/

/-- The quotient of two natural numbers, rounded to the nearest one; a tie
goes to the even one. -/
def divideToEven (num den : Nat) : Nat :=
  let q := num / den
  let r := num % den
  if 2 * r < den then q
  else if den < 2 * r then q + 1
  else if q % 2 = 0 then q else q + 1

/-- The quotient `num / (den · 2 ^ e)` as a pair of natural numbers. -/
def shifted (num den : Nat) (e : Int) : Nat × Nat :=
  if 0 ≤ e then (num, den * Nat.pow 2 e.toNat) else (num * Nat.pow 2 (-e).toNat, den)

/-- The exponent at which the quotient `num / den` has a mantissa of 53 bits,
but not below −1074. -/
def exponentOf (num den : Nat) : Int :=
  let guess : Int := (num.log2 : Int) - (den.log2 : Int) - 53
  let s := shifted num den guess
  let exact := if s.1 / s.2 < Nat.pow 2 53 then guess else guess + 1
  max exact (-1074)

/-- The double nearest to `num / den`; the denominator is positive. -/
def roundRatio (negative : Bool) (num den : Nat) : Binary64 :=
  if num = 0 then finite negative 0 (-1074)
  else
    let e := exponentOf num den
    let s := shifted num den e
    let m := divideToEven s.1 s.2
    let (m, e) := if m = Nat.pow 2 53 then (Nat.pow 2 52, e + 1) else (m, e)
    if 971 < e then infinite negative else finite negative m e

/-! ## §2. Numbers from numerals. -/

/-- The double nearest to a natural number. -/
def ofNat (n : Nat) : Binary64 := roundRatio false n 1

/-- The double nearest to `digits · 10 ^ exponent`.  Exponents at which the
result is surely infinite or zero are not multiplied out. -/
def ofDecimal (negative : Bool) (digits : Nat) (exponent : Int) : Binary64 :=
  if digits = 0 then finite negative 0 (-1074)
  else
    let magnitude : Int := exponent + (Nat.toDigits 10 digits).length
    if 400 < magnitude then infinite negative
    else if magnitude < -400 then finite negative 0 (-1074)
    else if 0 ≤ exponent then roundRatio negative (digits * Nat.pow 10 exponent.toNat) 1
    else roundRatio negative digits (Nat.pow 10 (-exponent).toNat)

/-! ## §3. Arithmetic. -/

/-- The magnitude of a finite double as a quotient. -/
def ratio (mantissa : Nat) (exponent : Int) : Nat × Nat :=
  if 0 ≤ exponent then (mantissa * Nat.pow 2 exponent.toNat, 1) else (mantissa, Nat.pow 2 (-exponent).toNat)

/-- The product with a finite positive double. -/
def times (x factor : Binary64) : Binary64 :=
  match x, factor with
  | finite s m e, finite _ m' e' =>
      let a := ratio m e
      let b := ratio m' e'
      roundRatio s (a.1 * b.1) (a.2 * b.2)
  | x, _ => x

/-- The quotient by a finite positive double. -/
def dividedBy (x divisor : Binary64) : Binary64 :=
  match x, divisor with
  | finite s m e, finite _ m' e' =>
      let a := ratio m e
      let b := ratio m' e'
      roundRatio s (a.1 * b.2) (a.2 * b.1)
  | x, _ => x

/-- The double with the opposite sign. -/
def negate : Binary64 → Binary64
  | finite s m e => finite (!s) m e
  | infinite s => infinite (!s)
  | notANumber => notANumber

/-- Zero of either sign. -/
def isZero : Binary64 → Bool
  | finite _ m _ => m == 0
  | _ => false

/-- Beyond the largest finite double. -/
def isInfinite : Binary64 → Bool
  | infinite _ => true
  | _ => false

/-- The double nearest to a power of ten. -/
def powerOfTen (n : Nat) : Binary64 := ofDecimal false 1 n

end Binary64

end TunnelControl
