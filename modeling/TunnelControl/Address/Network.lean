/-
  TunnelControl.Address.Network
  ─────────────────────────────
  **ADDRESSES WITH A PREFIX LENGTH.**

  `100.89.128.4/20` is an address and the number of its leading bits that
  name the network; that number is at most the width of the address.  A bare
  address is a host: all its bits count.

    • `IpPrefix`, `IpPrefix.of`, `IpPrefix.ofCidr`,
    • `IpPrefix.text`, `IpPrefix.le`,
    • `PrefixSet` — an ordered set.
-/
import TunnelControl.Address.Ip
import TunnelControl.Text.Blank

namespace TunnelControl

/-- Why a text is no address with a prefix length. -/
inductive AddressError where
  /-- Not an address, or not a prefix length. -/
  | invalid (input : String)
  /-- A prefix length beyond the width of the address. -/
  | tooLong (input : String) (length : Nat)
deriving DecidableEq

/-- The wording of an address error. -/
def AddressError.message : AddressError → String
  | invalid input => "Invalid address: " ++ input
  | tooLong input length =>
      "Prefix length " ++ Text.ofNat length ++ " is out of range for " ++ input

/-- Reads an address; outer blanks are ignored, but an error quotes them. -/
def IpAddress.parse (input : String) : Except AddressError IpAddress :=
  match IpAddress.ofChars? (Text.trimChars input.toList) with
  | some a => .ok a
  | none => .error (.invalid input)

/-- An address with a prefix length. -/
structure IpPrefix where
  address : IpAddress
  /-- The number of leading bits that name the network. -/
  length : Nat
  /-- No more bits than the address has. -/
  length_le : length ≤ address.width
deriving DecidableEq

namespace IpPrefix

/-- Pairs an address with a prefix length. -/
def of (address : IpAddress) (length : Nat) : Except AddressError IpPrefix :=
  if h : length ≤ address.width then .ok ⟨address, length, h⟩
  else .error (.tooLong address.text length)

/-- The prefix of a single host. -/
def host (address : IpAddress) : IpPrefix := ⟨address, address.width, Nat.le_refl _⟩

/-- Reads an address and pairs it with a prefix length. -/
def parse (address : String) (length : Nat) : Except AddressError IpPrefix := do
  let a ← IpAddress.parse address
  of a length

/-- Reads an address, or an address, a slash and a prefix length.  A prefix
length that is out of range is reported with the whole input. -/
def ofCidr (text : String) : Except AddressError IpPrefix :=
  let cs := Text.trimChars text.toList
  let input := String.ofList cs
  match Text.cut? '/' cs with
  | none => (IpAddress.parse input).map host
  | some (front, back) =>
      match Text.naturalUpTo? 255 (String.ofList (Text.trimChars back)) with
      | none => .error (.invalid input)
      | some length =>
          match parse (String.ofList front) length with
          | .ok p => .ok p
          | .error (.tooLong _ length) => .error (.tooLong input length)
          | .error e => .error e

/-- The text of a prefix. -/
def text (p : IpPrefix) : String := p.address.text ++ "/" ++ Text.ofNat p.length

/-- The debug text of a prefix. -/
def debugText (p : IpPrefix) : String :=
  "IpPrefix \x7b addr: " ++ p.address.text ++ ", prefix: " ++ Text.ofNat p.length ++ " \x7d"

/-- A route to everything. -/
def isDefaultRoute (p : IpPrefix) : Bool := p.length == 0

/-- The numbers by which prefixes are ordered. -/
def key (p : IpPrefix) : List Nat := p.address.key ++ [p.length]

/-- The order of lists of numbers, the first difference deciding. -/
def keyLT : List Nat → List Nat → Bool
  | _, [] => false
  | [], _ :: _ => true
  | m :: ms, n :: ns => if m = n then keyLT ms ns else m < n

end IpPrefix

/-- Prefixes in ascending order, each once. -/
abbrev PrefixSet := List IpPrefix

/-- Adds a prefix at its place. -/
def PrefixSet.insert (p : IpPrefix) : PrefixSet → PrefixSet
  | [] => [p]
  | q :: qs =>
      if p = q then q :: qs
      else if IpPrefix.keyLT p.key q.key then p :: q :: qs
      else q :: PrefixSet.insert p qs

/-- The set of the prefixes in a list. -/
def PrefixSet.ofList (ps : List IpPrefix) : PrefixSet :=
  ps.foldl (fun set p => PrefixSet.insert p set) []

end TunnelControl
