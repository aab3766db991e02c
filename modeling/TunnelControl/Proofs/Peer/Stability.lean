/-
  TunnelControl.Proofs.Peer.Stability
  ───────────────────────────────────
  **THE ORDER OF PEERS DEPENDS ON THEIR KEYS ALONE.**

  Peers and short entries are put in order by three keys, and those that share
  all of them stay in the order in which they came.  Nothing else of an entry
  counts: a list may be brought into its form before its entries are mapped or
  afterwards, and lists of two types never show the same keys in different
  orders.

    • `SameKeys`, `KeepsKeys`       — entries and maps, across types,
    • `StablySorted`, `stablySorted_iff` — a stable sort, and the only one,
    • `canonicalize_map`            — mapped before or after,
    • `AgreeOnOrder`, `agreeOnOrder_of_precedes` — two lists side by side.
-/
import Mathlib.Data.List.Perm.Subperm
import TunnelControl.Proofs.Peer.Canonical

namespace TunnelControl

variable {α β : Type} [PeerKeys α] [PeerKeys β]

/-- Two entries have the same three keys. -/
structure SameKeys (a : α) (b : β) : Prop where
  siteId : PeerKeys.siteId a = PeerKeys.siteId b
  connected : PeerKeys.connected a = PeerKeys.connected b
  rtt : PeerKeys.rtt a = PeerKeys.rtt b

instance (a : α) (b : β) : Decidable (SameKeys a b) :=
  decidable_of_iff
    (PeerKeys.siteId a = PeerKeys.siteId b ∧ PeerKeys.connected a = PeerKeys.connected b
      ∧ PeerKeys.rtt a = PeerKeys.rtt b)
    ⟨fun ⟨site, connected, rtt⟩ => ⟨site, connected, rtt⟩, fun h => ⟨h.siteId, h.connected, h.rtt⟩⟩

/-- A map that leaves the keys of an entry as they are. -/
def KeepsKeys (f : α → β) : Prop := ∀ p, SameKeys (f p) p

/-! ## §1. Keys and ranks. -/

theorem sameKeys_iff {a : α} {b : β} : SameKeys a b ↔ rank a = rank b := by
  constructor
  · rintro ⟨site, connected, rtt⟩
    unfold rank
    rw [site, connected, rtt]
  · intro same
    simp only [rank, toLex_inj, Prod.mk.injEq, Bool.not_inj_iff, Int64.toInt_inj] at same
    exact ⟨same.2.2, same.1, same.2.1⟩

theorem sameKeys_refl (a : α) : SameKeys a a := ⟨rfl, rfl, rfl⟩

theorem peerLE_iff_precedes_or {a b : α} : peerLE a b = true ↔ Precedes a b ∨ SameKeys a b := by
  rw [peerLE_iff, precedes_iff, sameKeys_iff]
  exact le_iff_lt_or_eq

theorem precedes_congr {a b : α} {c d : β} (first : SameKeys a c) (second : SameKeys b d) :
    Precedes a b ↔ Precedes c d := by
  rw [precedes_iff, precedes_iff, sameKeys_iff.mp first, sameKeys_iff.mp second]

/-! ## §2. A stable sort. -/

/-- A list is a stable sort of another one. -/
structure StablySorted (peers sorted : List α) : Prop where
  /-- It has the same entries, each as often. -/
  perm : sorted.Perm peers
  /-- Connected entries come first, then the fastest, then the lowest site id. -/
  ordered : sorted.Pairwise fun a b => Precedes a b ∨ SameKeys a b
  /-- Entries that share all keys stand in the order in which they came. -/
  stable : ∀ p : α, sorted.filter (SameKeys p ·) = peers.filter (SameKeys p ·)

/-- **Sorting leaves the entries of the same keys in their order.** -/
theorem filter_sortPeers (p : α) (peers : List α) :
    (sortPeers peers).filter (SameKeys p ·) = peers.filter (SameKeys p ·) := by
  have level : (peers.filter (SameKeys p ·)).Pairwise fun a b => peerLE a b = true := by
    refine List.pairwise_of_forall_mem_list fun a ha b hb => ?_
    have pa : SameKeys p a := of_decide_eq_true (List.mem_filter.mp ha).2
    have pb : SameKeys p b := of_decide_eq_true (List.mem_filter.mp hb).2
    rw [peerLE_iff, ← sameKeys_iff.mp pa, ← sameKeys_iff.mp pb]
  have kept : (peers.filter (SameKeys p ·)).Sublist (sortPeers peers) :=
    List.sublist_mergeSort peerLE_trans peerLE_total level List.filter_sublist
  have inside : (peers.filter (SameKeys p ·)).Sublist ((sortPeers peers).filter (SameKeys p ·)) := by
    have filtered := kept.filter (SameKeys p ·)
    rwa [List.filter_filter, funext fun q => Bool.and_self (decide (SameKeys p q))] at filtered
  have all : ((sortPeers peers).filter (SameKeys p ·)).length = (peers.filter (SameKeys p ·)).length :=
    ((List.mergeSort_perm peers peerLE).filter _).length_eq
  exact (inside.eq_of_length all.symm).symm

theorem sortPeers_stablySorted (peers : List α) : StablySorted peers (sortPeers peers) where
  perm := List.mergeSort_perm peers peerLE
  ordered := (pairwise_sortPeers peers).imp peerLE_iff_precedes_or.mp
  stable := fun p => filter_sortPeers p peers

theorem rank_le_of_mem {a b : α} {l : List α}
    (ordered : (a :: l).Pairwise fun p q => Precedes p q ∨ SameKeys p q) (listed : b ∈ a :: l) :
    rank a ≤ rank b := by
  rcases List.mem_cons.mp listed with rfl | later
  · exact le_rfl
  · exact peerLE_iff.mp (peerLE_iff_precedes_or.mpr (List.rel_of_pairwise_cons ordered later))

/-- Lists in order are equal if they have the same entries of the same keys, in
the same order. -/
theorem eq_of_filter_sameKeys {l m : List α} (perm : l.Perm m)
    (hl : l.Pairwise fun a b => Precedes a b ∨ SameKeys a b)
    (hm : m.Pairwise fun a b => Precedes a b ∨ SameKeys a b)
    (alike : ∀ p : α, l.filter (SameKeys p ·) = m.filter (SameKeys p ·)) : l = m := by
  induction l generalizing m with
  | nil => exact perm.nil_eq
  | cons a l ih =>
      cases m with
      | nil => exact perm.eq_nil
      | cons b m =>
          -- each head is among the first of the other list, so they share their keys
          have ab : rank a ≤ rank b := rank_le_of_mem hl (perm.mem_iff.mpr List.mem_cons_self)
          have ba : rank b ≤ rank a := rank_le_of_mem hm (perm.mem_iff.mp List.mem_cons_self)
          have keys : SameKeys a b := sameKeys_iff.mpr (le_antisymm ab ba)
          have heads : a :: l.filter (SameKeys a ·) = b :: m.filter (SameKeys a ·) := by
            simpa [sameKeys_refl a, keys] using alike a
          obtain ⟨rfl, -⟩ := List.cons.inj heads
          have rest : ∀ p : α, l.filter (SameKeys p ·) = m.filter (SameKeys p ·) := by
            intro p
            have whole := alike p
            rw [List.filter_cons, List.filter_cons] at whole
            split at whole
            next => exact (List.cons.inj whole).2
            next => exact whole
          rw [ih perm.cons_inv hl.of_cons hm.of_cons rest]

/-- **A list has one stable sort**, and that is how it is sorted. -/
theorem stablySorted_iff {peers sorted : List α} :
    StablySorted peers sorted ↔ sorted = sortPeers peers := by
  constructor
  · intro h
    have here := sortPeers_stablySorted peers
    refine eq_of_filter_sameKeys (h.perm.trans here.perm.symm) h.ordered here.ordered fun p => ?_
    rw [h.stable, here.stable]
  · rintro rfl
    exact sortPeers_stablySorted peers

/-- Entries that differ in their names alone stay as they came. -/
example :
    let entry (site : Int64) (name : String) : Wire.PeerStatus := ⟨site, name, true, 20, "", false⟩
    sortPeers [entry 9 "b", entry 4 "z", entry 9 "a", entry 4 "y"]
      = [entry 4 "z", entry 4 "y", entry 9 "b", entry 9 "a"] := by
  cbv

/-! ## §3. Before or after a map. -/

variable {f : α → β}

theorem KeepsKeys.peerLE_eq (keeps : KeepsKeys f) (a b : α) : peerLE (f a) (f b) = peerLE a b := by
  rw [Bool.eq_iff_iff, peerLE_iff, peerLE_iff, sameKeys_iff.mp (keeps a), sameKeys_iff.mp (keeps b)]

theorem KeepsKeys.any_site (keeps : KeepsKeys f) (p : α) (peers : List α) :
    (peers.map f).any (fun q => PeerKeys.siteId q = PeerKeys.siteId (f p))
      = peers.any (fun q => PeerKeys.siteId q = PeerKeys.siteId p) := by
  rw [List.any_map]
  congr 1
  funext q
  show decide (PeerKeys.siteId (f q) = PeerKeys.siteId (f p)) = _
  rw [(keeps q).siteId, (keeps p).siteId]

/-- The entries that are kept are kept at the same places. -/
theorem lastPerSite_map (keeps : KeepsKeys f) (peers : List α) :
    lastPerSite (peers.map f) = (lastPerSite peers).map f := by
  induction peers with
  | nil => rfl
  | cons p ps ih =>
      rw [List.map_cons, lastPerSite, lastPerSite, keeps.any_site]
      split
      next => exact ih
      next => rw [List.map_cons, ih]

/-- Equal keys or not, sorting makes the same moves. -/
theorem sortPeers_map (keeps : KeepsKeys f) (peers : List α) :
    sortPeers (peers.map f) = (sortPeers peers).map f :=
  (List.map_mergeSort fun a _ b _ => (keeps.peerLE_eq a b).symm).symm

/-- **The form of a mapped list is its form, mapped.** -/
theorem canonicalize_map (keeps : KeepsKeys f) (peers : List α) :
    canonicalize (peers.map f) = (canonicalize peers).map f := by
  unfold canonicalize
  rw [lastPerSite_map keeps, sortPeers_map keeps]

/-! ## §4. Two lists side by side. -/

/-- Where entries of one list have the keys of entries of the other, they stand
in the same order. -/
def AgreeOnOrder (l : List α) (m : List β) : Prop :=
  ∀ a ∈ l, ∀ b ∈ l, ∀ c ∈ m, ∀ d ∈ m, SameKeys a c → SameKeys b d →
    ([a, b].Sublist l ↔ [c, d].Sublist m)

/-- In a list in the strict order one entry stands before another one exactly if
it precedes it. -/
theorem pair_sublist_iff {l : List α} (ordered : l.Pairwise Precedes) {a b : α} (ha : a ∈ l)
    (hb : b ∈ l) : [a, b].Sublist l ↔ Precedes a b := by
  constructor
  · exact List.pairwise_iff_forall_sublist.mp ordered
  · intro before
    have other : a ≠ b := by
      rintro rfl
      exact lt_irrefl _ (precedes_iff.mp before)
    have among : [a, b].Subperm l := by
      refine List.Nodup.subperm (List.pairwise_pair.mpr other) fun p listed => ?_
      rcases List.mem_pair.mp listed with rfl | rfl
      · exact ha
      · exact hb
    exact List.sublist_of_subperm_of_pairwise among (List.pairwise_pair.mpr before) ordered

/-- **Lists in the strict order agree on it.** -/
theorem agreeOnOrder_of_precedes {l : List α} {m : List β} (hl : l.Pairwise Precedes)
    (hm : m.Pairwise Precedes) : AgreeOnOrder l m := by
  intro a ha b hb c hc d hd first second
  rw [pair_sublist_iff hl ha hb, pair_sublist_iff hm hc hd]
  exact precedes_congr first second

end TunnelControl
