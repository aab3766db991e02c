/-
  TunnelControl.Text.Numeral
  ──────────────────────────
  **DECIMAL NUMERALS.**

  A numeral in an argument, an address or an environment variable has one
  optional sign and at least one ASCII digit; leading zeros are allowed and
  nothing else is.  Bounds are a separate question and are checked last.

    • `decimal`   — the digits of a number, the way it is written,
    • `natural?`  — an unsigned numeral (`+` allowed),
    • `integer?`  — a signed numeral.
-/
namespace TunnelControl.Text

/-! ## §1. Digits. -/

/-- An ASCII decimal digit. -/
def isDigit (c : Char) : Bool := '0' ≤ c && c ≤ '9'

/-- The value of an ASCII decimal digit. -/
def digitValue (c : Char) : Nat := c.toNat - 48

/-- The number that a run of digits denotes. -/
def digitsValue (cs : List Char) : Nat :=
  cs.foldl (fun n c => 10 * n + digitValue c) 0

/-- The digits of a number, without leading zeros. -/
def decimal (n : Nat) : List Char := Nat.toDigits 10 n

/-- The digits of an integer, after a minus sign if it is negative. -/
def signedDecimal (i : Int) : List Char :=
  if i < 0 then '-' :: decimal i.natAbs else decimal i.natAbs

/-- The decimal text of a number. -/
def ofNat (n : Nat) : String := String.ofList (decimal n)

/-- The decimal text of an integer. -/
def ofInt (i : Int) : String := String.ofList (signedDecimal i)

/-! ## §2. Reading numerals. -/

/-- One or more digits and nothing else. -/
def digits? (cs : List Char) : Option Nat :=
  if cs.isEmpty || !cs.all isDigit then none else some (digitsValue cs)

/-- An unsigned numeral: at most one plus sign, then digits. -/
def natural? : List Char → Option Nat
  | '+' :: cs => digits? cs
  | cs => digits? cs

/-- A signed numeral: at most one sign, then digits. -/
def integer? : List Char → Option Int
  | '-' :: cs => (digits? cs).map fun n => -(n : Int)
  | cs => (natural? cs).map fun n => (n : Int)

/-- An unsigned numeral of at most `bound`. -/
def naturalUpTo? (bound : Nat) (s : String) : Option Nat :=
  (natural? s.toList).filter (· ≤ bound)

/-- A truth value is written `true` or `false`. -/
def boolean? (s : String) : Option Bool :=
  if s = "true" then some true else if s = "false" then some false else none

end TunnelControl.Text
