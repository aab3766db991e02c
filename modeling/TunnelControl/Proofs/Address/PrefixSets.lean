/-
  TunnelControl.Proofs.Address.PrefixSets
  ───────────────────────────────────────
  **A SET OF PREFIXES IS SETTLED BY ITS MEMBERS.**

  Prefixes are compared by lists of numbers, the first difference deciding;
  no two prefixes have the same numbers, so the order is strict and total.
  Adding a prefix keeps a set in that order, and two sets in order with the
  same members are the same list: neither the order in which the prefixes
  came nor how often they came is left.

    • `keyLT_iff`, `key_injective` — the order,
    • `mem_insert`, `Ordered.insert` — one prefix more,
    • `mem_addAll`, `Ordered.addAll` — any number of prefixes more,
    • `Ordered.eq_of_mem_iff`      — the members are all there is,
    • `mem_ofList`, `ordered_ofList`, `ofList_congr` — the set of a list.
-/
import Mathlib.Data.List.Lex
import Mathlib.Data.List.Sort
import TunnelControl.Address.Network

namespace TunnelControl

/-! ## §1. The order. -/

theorem IpAddress.key_injective {a b : IpAddress} (same : a.key = b.key) : a = b := by
  cases a with
  | v4 a =>
      cases b with
      | v4 b =>
          have octets :=
            List.map_injective_iff.mpr (fun _ _ => UInt8.toNat_inj.mp) (List.cons.inj same).2
          exact congrArg v4 (congrArg Ipv4.mk (Vector.toList_inj.mp octets))
      | v6 b => cases (List.cons.inj same).1
  | v6 a =>
      cases b with
      | v4 b => cases (List.cons.inj same).1
      | v6 b =>
          have groups :=
            List.map_injective_iff.mpr (fun _ _ => UInt16.toNat_inj.mp) (List.cons.inj same).2
          exact congrArg v6 (congrArg Ipv6.mk (Vector.toList_inj.mp groups))

namespace IpPrefix

/-- Different prefixes are different in their numbers. -/
theorem key_injective {p q : IpPrefix} (same : p.key = q.key) : p = q := by
  obtain ⟨address, length⟩ := List.append_inj' same rfl
  cases p
  cases q
  cases IpAddress.key_injective address
  cases length
  rfl

/-- The comparison is that of lists. -/
theorem keyLT_iff {a b : List Nat} : keyLT a b = true ↔ a < b := by
  induction a generalizing b with
  | nil => cases b <;> simp [keyLT]
  | cons m ms ih =>
      cases b with
      | nil => simp [keyLT]
      | cons n ns =>
          rw [keyLT, List.cons_lt_cons_iff]
          split
          next same => simp [same, ih]
          next other => simp [other]

/-- A prefix comes before another one in a set. -/
def Before (p q : IpPrefix) : Prop := p.key < q.key

instance : Std.Asymm Before where
  asymm _ _ pq qp := lt_asymm pq qp

end IpPrefix

/-! ## §2. Sets. -/

namespace PrefixSet

variable {p q : IpPrefix} {set other : PrefixSet}

/-- The prefixes ascend, so that none occurs twice. -/
def Ordered (set : PrefixSet) : Prop := List.Pairwise IpPrefix.Before set

theorem mem_insert : q ∈ insert p set ↔ q = p ∨ q ∈ set := by
  induction set with
  | nil => simp [insert]
  | cons r rs ih =>
      rw [insert]
      split
      next here =>
        subst here
        simp
      next =>
      split
      next => exact List.mem_cons
      next => rw [List.mem_cons, ih, List.mem_cons, or_left_comm]

/-- **A prefix is added at its place.** -/
theorem Ordered.insert (ordered : Ordered set) : Ordered (set.insert p) := by
  induction set with
  | nil => exact List.pairwise_singleton _ p
  | cons r rs ih =>
      obtain ⟨first, rest⟩ := List.pairwise_cons.mp ordered
      rw [PrefixSet.insert]
      split
      next => exact ordered
      next other =>
      split
      next before =>
        have before : p.Before r := IpPrefix.keyLT_iff.mp before
        refine List.pairwise_cons.mpr ⟨fun q listed => ?_, ordered⟩
        obtain rfl | later := List.mem_cons.mp listed
        · exact before
        · exact lt_trans before (first q later)
      next notBefore =>
        -- the order is total, so the prefix comes behind the first one
        have behind : r.Before p := by
          refine lt_of_le_of_ne (not_lt.mp (mt IpPrefix.keyLT_iff.mpr notBefore)) fun same => ?_
          exact other (IpPrefix.key_injective same.symm)
        refine List.pairwise_cons.mpr ⟨fun q listed => ?_, ih rest⟩
        obtain rfl | later := mem_insert.mp listed
        · exact behind
        · exact first q later

/-- Adds the prefixes of a list one after the other. -/
def addAll (ps : List IpPrefix) (set : PrefixSet) : PrefixSet :=
  ps.foldl (fun set p => insert p set) set

theorem addAll_append (ps qs : List IpPrefix) (set : PrefixSet) :
    addAll (ps ++ qs) set = addAll qs (addAll ps set) := List.foldl_append

theorem mem_addAll {ps : List IpPrefix} : q ∈ addAll ps set ↔ q ∈ ps ∨ q ∈ set := by
  induction ps generalizing set with
  | nil => simp [addAll]
  | cons p ps ih =>
      show q ∈ addAll ps (insert p set) ↔ _
      rw [ih, mem_insert, List.mem_cons, or_left_comm, or_assoc]

theorem Ordered.addAll (ordered : Ordered set) (ps : List IpPrefix) :
    Ordered (addAll ps set) := by
  induction ps generalizing set with
  | nil => exact ordered
  | cons p ps ih => exact ih ordered.insert

/-- **Two sets with the same members are the same.** -/
theorem Ordered.eq_of_mem_iff (ordered : Ordered set) (alike : Ordered other)
    (members : ∀ q, q ∈ set ↔ q ∈ other) : set = other :=
  List.Pairwise.eq_of_mem_iff ordered alike members

/-! ## §3. The set of a list. -/

variable {ps qs : List IpPrefix}

theorem mem_ofList : q ∈ ofList ps ↔ q ∈ ps := by
  show q ∈ addAll ps [] ↔ _
  rw [mem_addAll, or_iff_left List.not_mem_nil]

theorem ordered_ofList (ps : List IpPrefix) : Ordered (ofList ps) :=
  Ordered.addAll List.Pairwise.nil ps

/-- **Neither order nor repetition matters** in the list that a set is made of. -/
theorem ofList_congr (members : ∀ q, q ∈ ps ↔ q ∈ qs) : ofList ps = ofList qs := by
  refine (ordered_ofList ps).eq_of_mem_iff (ordered_ofList qs) fun q => ?_
  rw [mem_ofList, mem_ofList, members]

end PrefixSet

end TunnelControl
