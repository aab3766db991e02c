/-
  TunnelControl.Json.ReadError
  ────────────────────────────
  **WHY A JSON TEXT IS REFUSED.**

  A text is decoded while it is read, and the first problem from left to
  right is the one that is reported.  A value of the wrong kind is named with
  what was expected in its place; what is no JSON at all is told apart only
  by whether the text ended too early.

    • `Found`     — the kind of value that was met,
    • `ReadError` — the causes, with `message`.
-/
import TunnelControl.Decimal.Shortest
import TunnelControl.Text.Numeral
import TunnelControl.Text.Quoted

namespace TunnelControl.Json

/-- A value met where another kind was expected. -/
inductive Found where
  | null
  | boolean (b : Bool)
  /-- A whole number of at most 64 bits. -/
  | integer (i : Int)
  | real (x : Binary64)
  | text (s : String)
  | sequence
  | record
deriving DecidableEq

/-- The digits of a number with at least one decimal place; an exponent is
used from 10¹⁶ up and below 10⁻⁵. -/
def realText : Binary64 → String
  | .finite negative m e =>
      let (digits, power) := Decimal.shortest m e
      let lead : Int := power + (Nat.toDigits 10 digits).length - 1
      let body :=
        if lead < -5 ∨ 15 < lead then Decimal.scientific digits power
        else if 0 ≤ power then Decimal.positional digits power ++ ['.', '0']
        else Decimal.positional digits power
      String.ofList (if negative then '-' :: body else body)
  | .infinite negative => if negative then "-inf" else "inf"
  | .notANumber => "NaN"

/-- The description of a value that was met. -/
def Found.describe : Found → String
  | .null => "null"
  | .boolean b => "boolean `" ++ (if b then "true" else "false") ++ "`"
  | .integer i => "integer `" ++ Text.ofInt i ++ "`"
  | .real x => "floating point `" ++ realText x ++ "`"
  | .text s => "string " ++ Text.quoted s
  | .sequence => "sequence"
  | .record => "map"

/-- The first problem met in a text. -/
inductive ReadError where
  /-- A value of another kind than expected. -/
  | invalidType (found : Found) (expected : String)
  /-- A value of the right kind but out of range. -/
  | invalidValue (found : Found) (expected : String)
  /-- An array that ends before a required field. -/
  | invalidLength (count : Nat) (expected : String)
  | missingField (name : String)
  | duplicateField (name : String)
  | endOfText
  | malformed
deriving DecidableEq

/-- The wording of a problem. -/
def ReadError.message : ReadError → String
  | .invalidType found expected =>
      "invalid type: " ++ found.describe ++ ", expected " ++ expected
  | .invalidValue found expected =>
      "invalid value: " ++ found.describe ++ ", expected " ++ expected
  | .invalidLength count expected =>
      "invalid length " ++ Text.ofNat count ++ ", expected " ++ expected
  | .missingField name => "missing field `" ++ name ++ "`"
  | .duplicateField name => "duplicate field `" ++ name ++ "`"
  | .endOfText => "EOF"
  | .malformed => "syntax"

/-- Reads a value from the front of a text and returns the rest. -/
abbrev Reader (α : Type) := List Char → Except ReadError (α × List Char)

end TunnelControl.Json
