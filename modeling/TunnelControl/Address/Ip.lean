/-
  TunnelControl.Address.Ip
  ────────────────────────
  **INTERNET ADDRESSES.**

  An IPv4 address is written as four decimal octets without leading zeros.
  An IPv6 address is written as eight groups of up to four hexadecimal
  digits; `::` stands for one or more zero groups, once at most, and the last
  two groups may be written as an IPv4 address.  Shown is the shortest form:
  the first longest run of at least two zero groups as `::`, lower-case
  digits, and only a mapped IPv4 address with its dotted tail.

    • `Ipv4`, `Ipv6`, `IpAddress`,
    • `IpAddress.ofChars?`, `IpAddress.toChars`.
-/
import TunnelControl.Text.Numeral
import TunnelControl.Text.Parts

namespace TunnelControl

/-- An IPv4 address: four octets, the most significant first. -/
structure Ipv4 where
  octets : Vector UInt8 4
deriving DecidableEq

/-- An IPv6 address: eight groups, the most significant first. -/
structure Ipv6 where
  groups : Vector UInt16 8
deriving DecidableEq

/-- An address of either family. -/
inductive IpAddress where
  | v4 (address : Ipv4)
  | v6 (address : Ipv6)
deriving DecidableEq

/-- A list of a known length as a vector. -/
def vectorOf? {α : Type} (n : Nat) (items : List α) : Option (Vector α n) :=
  if h : items.length = n then some ⟨items.toArray, by simp [h]⟩ else none

/-- Every element through a partial function; nothing if one has no value. -/
def traverse? {α β : Type} (f : α → Option β) : List α → Option (List β)
  | [] => some []
  | a :: as => do
      let b ← f a
      let bs ← traverse? f as
      return b :: bs

/-! ## §1. IPv4. -/

namespace Ipv4

/-- An octet: up to three digits, no leading zero, at most 255. -/
def octet? (cs : List Char) : Option UInt8 :=
  match Text.digits? cs with
  | none => none
  | some n =>
      if 3 < cs.length ∨ (1 < cs.length ∧ cs.head? = some '0') ∨ 255 < n then none
      else some (UInt8.ofNat n)

/-- Reads four octets between dots. -/
def ofChars? (cs : List Char) : Option Ipv4 := do
  let octets ← traverse? octet? (Text.parts '.' cs)
  let octets ← vectorOf? 4 octets
  return ⟨octets⟩

/-- Texts between separators. -/
def joined (sep : Char) : List (List Char) → List Char
  | [] => []
  | [p] => p
  | p :: q :: ps => p ++ sep :: joined sep (q :: ps)

/-- Four octets between dots. -/
def toChars (a : Ipv4) : List Char :=
  joined '.' (a.octets.toList.map fun o => Text.decimal o.toNat)

/-- Two octets as a group. -/
def toGroup (high low : UInt8) : UInt16 := high.toUInt16 * 256 + low.toUInt16

/-- The address as the last two groups of an IPv6 address. -/
def toGroups (a : Ipv4) : List UInt16 :=
  [toGroup a.octets[0] a.octets[1], toGroup a.octets[2] a.octets[3]]

end Ipv4

/-! ## §2. IPv6. -/

namespace Ipv6

/-- The value of a hexadecimal digit of either case. -/
def hexValue? (c : Char) : Option Nat :=
  if '0' ≤ c ∧ c ≤ '9' then some (c.toNat - 48)
  else if 'a' ≤ c ∧ c ≤ 'f' then some (c.toNat - 87)
  else if 'A' ≤ c ∧ c ≤ 'F' then some (c.toNat - 55)
  else none

/-- A group: one to four hexadecimal digits. -/
def group? (cs : List Char) : Option UInt16 :=
  if cs.isEmpty ∨ 4 < cs.length then none
  else (traverse? hexValue? cs).map fun ds => UInt16.ofNat (ds.foldl (fun n d => 16 * n + d) 0)

/-- Groups between colons, of which the last may be a dotted address. -/
def tail? : List (List Char) → Option (List UInt16)
  | [] => some []
  | [p] =>
      match group? p with
      | some g => some [g]
      | none => (Ipv4.ofChars? p).map Ipv4.toGroups
  | p :: q :: ps => do
      let g ← group? p
      let gs ← tail? (q :: ps)
      return g :: gs

/-- The pieces between colons; an empty text has none. -/
def pieces (cs : List Char) : List (List Char) :=
  if cs.isEmpty then [] else Text.parts ':' cs

/-- The text before and after the first `::`. -/
def gap? : List Char → Option (List Char × List Char)
  | [] => none
  | [_] => none
  | c :: d :: cs =>
      if c = ':' ∧ d = ':' then some ([], cs) else (gap? (d :: cs)).map fun r => (c :: r.1, r.2)

/-- Reads eight groups, or fewer around a `::`. -/
def ofChars? (cs : List Char) : Option Ipv6 :=
  match gap? cs with
  | none => do
      let groups ← tail? (Text.parts ':' cs)
      let groups ← vectorOf? 8 groups
      return ⟨groups⟩
  | some (front, back) => do
      let front ← traverse? group? (pieces front)
      let back ← tail? (pieces back)
      if 7 < front.length + back.length then none
      else
        let zeros := List.replicate (8 - front.length - back.length) 0
        let groups ← vectorOf? 8 (front ++ zeros ++ back)
        return ⟨groups⟩

/-- The number of zero groups at the front. -/
def leadingZeros (gs : List UInt16) : Nat := (gs.takeWhile (· == 0)).length

/-- Start and length of the first longest run of zero groups. -/
def longestRun : Nat → List UInt16 → Nat × Nat
  | _, [] => (0, 0)
  | start, g :: gs =>
      let later := longestRun (start + 1) gs
      let here := leadingZeros (g :: gs)
      if here < later.2 then later else (start, here)

/-- Groups between colons, without leading zeros. -/
def groupsText (gs : List UInt16) : List Char :=
  Ipv4.joined ':' (gs.map fun g => Nat.toDigits 16 g.toNat)

/-- The IPv4 address that is mapped into this one. -/
def mapped? (a : Ipv6) : Option Ipv4 :=
  match a.groups.toList with
  | [0, 0, 0, 0, 0, 0xFFFF, g, h] =>
      some ⟨#v[UInt8.ofNat (g.toNat / 256), UInt8.ofNat (g.toNat % 256),
        UInt8.ofNat (h.toNat / 256), UInt8.ofNat (h.toNat % 256)]⟩
  | _ => none

/-- The shortest form. -/
def toChars (a : Ipv6) : List Char :=
  match a.mapped? with
  | some v4 => "::ffff:".toList ++ v4.toChars
  | none =>
      let gs := a.groups.toList
      let run := longestRun 0 gs
      if run.2 ≤ 1 then groupsText gs
      else groupsText (gs.take run.1) ++ [':', ':'] ++ groupsText (gs.drop (run.1 + run.2))

end Ipv6

/-! ## §3. Either family. -/

namespace IpAddress

/-- Reads an address of either family. -/
def ofChars? (cs : List Char) : Option IpAddress :=
  match Ipv4.ofChars? cs with
  | some a => some (v4 a)
  | none => (Ipv6.ofChars? cs).map v6

/-- The text of an address. -/
def toChars : IpAddress → List Char
  | v4 a => a.toChars
  | v6 a => a.toChars

/-- The text of an address. -/
def text (a : IpAddress) : String := String.ofList a.toChars

/-- The number of bits of an address. -/
def width : IpAddress → Nat
  | v4 _ => 32
  | v6 _ => 128

/-- Is it an IPv6 address? -/
def isV6 : IpAddress → Bool
  | v4 _ => false
  | v6 _ => true

/-- The numbers by which addresses are ordered: the family, then the octets
or groups. -/
def key : IpAddress → List Nat
  | v4 a => 4 :: a.octets.toList.map UInt8.toNat
  | v6 a => 6 :: a.groups.toList.map UInt16.toNat

end IpAddress

end TunnelControl
