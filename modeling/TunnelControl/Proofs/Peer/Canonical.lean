/-
  TunnelControl.Proofs.Peer.Canonical
  ───────────────────────────────────
  **ONE ENTRY FOR EACH SITE, IN ONE ORDER.**

  The engine may name a site several times, and in any order.  A view keeps
  what was said last of each site.  No two entries of different sites share
  all three keys, so the order is strict, and the form of a list is settled by
  its last entries alone.

    • `lastOf?`, `Precedes`         — the last entry of a site, the strict order,
    • `mem_lastPerSite`             — which entries are kept,
    • `mem_canonicalize`, `canonicalize_precedes`,
      `filter_canonicalize`         — which are shown, and in which order,
    • `canonicalize_eq_iff`         — when two lists are shown alike,
    • `lists_are_shown_in_canonical_form`.
-/
import Mathlib.Data.List.Sort
import Mathlib.Data.Prod.Lex
import TunnelControl.Peer.Order

namespace TunnelControl

variable {α : Type} [PeerKeys α]

/-- The last entry of a site. -/
def lastOf? (site : Int64) (peers : List α) : Option α :=
  (peers.filter fun p => PeerKeys.siteId p = site).getLast?

/-- An entry comes before another one: it is connected and the other is not,
or it is faster, or its site id is lower. -/
def Precedes (a b : α) : Prop :=
  (PeerKeys.connected a = true ∧ PeerKeys.connected b = false)
    ∨ PeerKeys.connected a = PeerKeys.connected b
      ∧ (PeerKeys.rtt a < PeerKeys.rtt b
        ∨ PeerKeys.rtt a = PeerKeys.rtt b ∧ PeerKeys.siteId a < PeerKeys.siteId b)

/-! ## §1. The last entry of a site. -/

theorem lastOf?_cons (site : Int64) (p : α) (ps : List α) :
    lastOf? site (p :: ps)
      = (lastOf? site ps).or (if PeerKeys.siteId p = site then some p else none) := by
  unfold lastOf?
  by_cases here : PeerKeys.siteId p = site
  · rw [List.filter_cons_of_pos (by simpa using here), List.getLast?_cons, if_pos here]
    cases (ps.filter fun p => PeerKeys.siteId p = site).getLast? <;> rfl
  · rw [List.filter_cons_of_neg (by simpa using here), if_neg here, Option.or_none]

theorem lastOf?_eq_some {site : Int64} {peers : List α} {p : α} (h : lastOf? site peers = some p) :
    p ∈ peers ∧ PeerKeys.siteId p = site := by
  have listed := List.mem_filter.mp (List.mem_of_getLast? h)
  exact ⟨listed.1, by simpa using listed.2⟩

/-- A site has a last entry exactly if it occurs. -/
theorem lastOf?_isSome_iff {site : Int64} {peers : List α} :
    (lastOf? site peers).isSome = true ↔ ∃ p ∈ peers, PeerKeys.siteId p = site := by
  unfold lastOf?
  rw [List.getLast?_isSome, ne_eq, List.filter_eq_nil_iff]
  simp

theorem lastOf?_eq_none {site : Int64} {peers : List α}
    (absent : ∀ p ∈ peers, PeerKeys.siteId p ≠ site) : lastOf? site peers = none := by
  rw [← Option.not_isSome_iff_eq_none, lastOf?_isSome_iff]
  rintro ⟨p, listed, here⟩
  exact absent p listed here

/-! ## §2. Which entries are kept. -/

/-- **The entries that are kept are the last ones of their sites.** -/
theorem mem_lastPerSite {p : α} {peers : List α} :
    p ∈ lastPerSite peers ↔ lastOf? (PeerKeys.siteId p) peers = some p := by
  induction peers with
  | nil => simp [lastPerSite, lastOf?]
  | cons q qs ih =>
      rw [lastOf?_cons, lastPerSite]
      split
      next again =>
        -- the site of the first entry occurs once more, so the entry is dropped
        rw [ih]
        cases later : lastOf? (PeerKeys.siteId p) qs with
        | some r => rfl
        | none =>
            have elsewhere : PeerKeys.siteId q ≠ PeerKeys.siteId p := by
              intro same
              simp only [List.any_eq_true, decide_eq_true_eq, same] at again
              rw [← lastOf?_isSome_iff, later] at again
              cases again
            rw [if_neg elsewhere]
            rfl
      next once =>
        rw [List.mem_cons, ih]
        by_cases same : PeerKeys.siteId q = PeerKeys.siteId p
        · have last : lastOf? (PeerKeys.siteId p) qs = none := by
            refine lastOf?_eq_none fun r listed here => once ?_
            simp only [List.any_eq_true, decide_eq_true_eq]
            exact ⟨r, listed, here.trans same.symm⟩
          rw [last, if_pos same]
          simp [eq_comm]
        · have other : p ≠ q := by
            rintro rfl
            exact same rfl
          rw [if_neg same, Option.or_none]
          simp [other]

/-- No two of them have the same site. -/
theorem lastPerSite_sites (peers : List α) :
    (lastPerSite peers).Pairwise fun a b => PeerKeys.siteId a ≠ PeerKeys.siteId b := by
  induction peers with
  | nil => exact List.Pairwise.nil
  | cons p ps ih =>
      rw [lastPerSite]
      split
      next => exact ih
      next once =>
        refine List.pairwise_cons.mpr ⟨fun q kept same => once ?_, ih⟩
        have listed := (lastOf?_eq_some (mem_lastPerSite.mp kept)).1
        simp only [List.any_eq_true, decide_eq_true_eq]
        exact ⟨q, listed, same.symm⟩

/-! ## §3. The order. -/

/-- The three keys of an entry, as one key that is compared part by part. -/
def rank (p : α) : Bool ×ₗ Int ×ₗ Int :=
  toLex (!PeerKeys.connected p, toLex ((PeerKeys.rtt p).toInt, (PeerKeys.siteId p).toInt))

theorem precedes_iff {a b : α} : Precedes a b ↔ rank a < rank b := by
  unfold Precedes rank
  rw [Prod.Lex.toLex_lt_toLex, Prod.Lex.toLex_lt_toLex, Int64.lt_iff_toInt_lt,
    Int64.lt_iff_toInt_lt, ← Int64.toInt_inj]
  cases PeerKeys.connected a <;> cases PeerKeys.connected b <;> simp

theorem peerLE_iff {a b : α} : peerLE a b = true ↔ rank a ≤ rank b := by
  unfold peerLE rank
  rw [Prod.Lex.toLex_le_toLex, Prod.Lex.toLex_le_toLex]
  simp only [Int64.le_iff_toInt_le, Int64.lt_iff_toInt_lt]
  cases PeerKeys.connected a <;> cases PeerKeys.connected b <;>
    by_cases rtt : PeerKeys.rtt a = PeerKeys.rtt b <;>
    simp [rtt, Int64.toInt_inj]

theorem peerLE_trans (a b c : α) (ab : peerLE a b = true) (bc : peerLE b c = true) :
    peerLE a c = true := by
  rw [peerLE_iff] at ab bc ⊢
  exact le_trans ab bc

theorem peerLE_total (a b : α) : (peerLE a b || peerLE b a) = true := by
  rw [Bool.or_eq_true, peerLE_iff, peerLE_iff]
  exact le_total (rank a) (rank b)

theorem pairwise_sortPeers (peers : List α) :
    (sortPeers peers).Pairwise fun a b => peerLE a b = true :=
  List.pairwise_mergeSort peerLE_trans peerLE_total peers

/-- Entries of different sites never share all keys. -/
theorem precedes_of_peerLE {a b : α} (le : peerLE a b = true)
    (sites : PeerKeys.siteId a ≠ PeerKeys.siteId b) : Precedes a b := by
  refine precedes_iff.mpr (lt_of_le_of_ne (peerLE_iff.mp le) fun same => sites ?_)
  have keys : (PeerKeys.siteId a).toInt = (PeerKeys.siteId b).toInt :=
    congrArg (fun key => (ofLex (ofLex key).2).2) same
  exact Int64.toInt_inj.mp keys

instance : Std.Asymm (Precedes : α → α → Prop) where
  asymm a b ab := by
    rw [precedes_iff] at ab ⊢
    exact lt_asymm ab

/-! ## §4. What is shown. -/

/-- **The entries that are shown are the last ones of their sites.** -/
theorem mem_canonicalize {p : α} {peers : List α} :
    p ∈ canonicalize peers ↔ lastOf? (PeerKeys.siteId p) peers = some p := by
  unfold canonicalize sortPeers
  rw [List.mem_mergeSort, mem_lastPerSite]

/-- **They are shown in the strict order.** -/
theorem canonicalize_precedes (peers : List α) : (canonicalize peers).Pairwise Precedes := by
  have sorted := pairwise_sortPeers (lastPerSite peers)
  have sites : (canonicalize peers).Pairwise fun a b => PeerKeys.siteId a ≠ PeerKeys.siteId b :=
    (List.mergeSort_perm _ _).symm.pairwise (lastPerSite_sites peers) Ne.symm
  exact (sorted.and sites).imp fun ⟨le, ne⟩ => precedes_of_peerLE le ne

/-- **Of each site the last entry is shown, once.** -/
theorem filter_canonicalize (site : Int64) (peers : List α) :
    ((canonicalize peers).filter fun p => PeerKeys.siteId p = site)
      = (lastOf? site peers).toList := by
  refine List.Pairwise.eq_of_mem_iff (r := Precedes) ((canonicalize_precedes peers).filter _) ?_ ?_
  · cases lastOf? site peers with
    | none => exact List.Pairwise.nil
    | some p => exact List.pairwise_singleton _ p
  · intro p
    rw [List.mem_filter, mem_canonicalize, decide_eq_true_iff, Option.mem_toList]
    constructor
    · rintro ⟨last, rfl⟩
      exact last
    · intro last
      have here := (lastOf?_eq_some last).2
      exact ⟨here ▸ last, here⟩

theorem lastOf?_canonicalize (site : Int64) (peers : List α) :
    lastOf? site (canonicalize peers) = lastOf? site peers := by
  show ((canonicalize peers).filter _).getLast? = _
  rw [filter_canonicalize]
  cases lastOf? site peers <;> rfl

/-- **Two lists are shown alike exactly if they have the same last entries.** -/
theorem canonicalize_eq_iff {peers others : List α} :
    canonicalize peers = canonicalize others
      ↔ ∀ site, lastOf? site peers = lastOf? site others := by
  constructor
  · intro same site
    rw [← lastOf?_canonicalize, same, lastOf?_canonicalize]
  · intro same
    refine List.Pairwise.eq_of_mem_iff (canonicalize_precedes peers) (canonicalize_precedes others)
      fun p => ?_
    rw [mem_canonicalize, mem_canonicalize, same]

/-! ## §5. The main result. -/

/-- The form in which a list is shown. -/
structure CanonicalForm (peers shown : List α) : Prop where
  /-- Of a site that occurs the last entry is shown, unchanged and once; of
  another site there is none. -/
  once : ∀ site, (shown.filter fun p => PeerKeys.siteId p = site) = (lastOf? site peers).toList
  /-- Connected entries come first, then the fastest, then the lowest site id. -/
  ordered : shown.Pairwise Precedes
  /-- Another list is shown alike exactly if it has the same last entries,
  in whatever order. -/
  settled : ∀ others, canonicalize others = shown ↔ ∀ site, lastOf? site others = lastOf? site peers
  /-- What is shown has its form already. -/
  stable : canonicalize shown = shown

/-- **A list is shown as the last entries of its sites, each once, in the
strict order**, and nothing else of it counts. -/
theorem lists_are_shown_in_canonical_form (peers : List α) :
    CanonicalForm peers (canonicalize peers) where
  once := fun site => filter_canonicalize site peers
  ordered := canonicalize_precedes peers
  settled := fun _ => canonicalize_eq_iff
  stable := canonicalize_eq_iff.mpr fun site => lastOf?_canonicalize site peers

/-- The last of two entries of a site is kept, and an unknown time is the fastest. -/
example :
    let entry (site : Int64) (connected : Bool) (rtt : Int64) : Wire.PeerStatus :=
      ⟨site, "", connected, rtt, "", false⟩
    canonicalize [entry 1 false 10, entry 2 true 5, entry 1 true (-1), entry 3 false (-7)]
      = [entry 1 true (-1), entry 2 true 5, entry 3 false (-7)] := by
  cbv

end TunnelControl
