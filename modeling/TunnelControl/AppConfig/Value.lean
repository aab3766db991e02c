/-
  TunnelControl.AppConfig.Value
  ─────────────────────────────
  **CONFIGURATION BEFORE IT HAS A TYPE.**

  Files and variables give values whose kinds are known but not whether they
  fit.  Values from several places are laid over each other: tables are
  merged name by name, of all else the later one wins.

    • `ConfigValue`, `ConfigValue.describe`,
    • `ConfigValue.combine`, `ConfigValue.overlay`.
-/
import TunnelControl.Decimal.Shortest
import TunnelControl.Entries
import TunnelControl.Text.Numeral
import TunnelControl.Text.Quoted

namespace TunnelControl

/-- A value of the configuration. -/
inductive ConfigValue where
  | text (s : String)
  | boolean (b : Bool)
  /-- A whole number that could have been negative. -/
  | signed (i : Int)
  | unsigned (n : Nat)
  | real (x : Binary64)
  | sequence (items : List ConfigValue)
  | table (members : List (String × ConfigValue))

namespace ConfigValue

/-- The digits of a number without an exponent; a whole number has no point. -/
def realText : Binary64 → String
  | .finite negative m e =>
      let (digits, power) := Decimal.shortest m e
      let body := Decimal.positional digits power
      String.ofList (if negative then '-' :: body else body)
  | .infinite negative => if negative then "-inf" else "inf"
  | .notANumber => "NaN"

/-- The description of a value in a complaint. -/
def describe : ConfigValue → String
  | text s => "string " ++ Text.quoted s
  | boolean b => "bool " ++ (if b then "true" else "false")
  | signed i => "signed int `" ++ Text.ofInt i ++ "`"
  | unsigned n => "unsigned int `" ++ Text.ofNat n ++ "`"
  | real x => "float `" ++ realText x ++ "`"
  | sequence _ => "sequence"
  | table _ => "map"

mutual

/-- A value laid over an earlier one. -/
def combine (earlier : ConfigValue) : ConfigValue → ConfigValue
  | table members =>
      match earlier with
      | table old => table (overlay old members)
      | _ => table members
  | later => later

/-- Members laid over the members of an earlier table. -/
def overlay (old : Entries ConfigValue) : List (String × ConfigValue) → Entries ConfigValue
  | [] => old
  | (name, v) :: rest =>
      let merged := match Entries.get? name old with
        | some earlier => combine earlier v
        | none => v
      overlay (Entries.insert name merged old) rest

end

end ConfigValue

end TunnelControl
