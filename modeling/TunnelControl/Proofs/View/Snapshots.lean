/-
  TunnelControl.Proofs.View.Snapshots
  ───────────────────────────────────
  **THE VIEWS SHOW THE LAST SNAPSHOTS.**

  Snapshots come and go, of one view or of both, and now and then the views
  are emptied.  Nothing is merged: each view shows the last snapshot that
  covers it since it was emptied last, in canonical form, and a look-up of a
  site finds what the engine said last about it.

    • `Write`, `replay`            — what is done to views, one after the other,
    • `sinceClear`                 — the snapshots that still count,
    • `Shows`, `Shows.apply`       — one more snapshot,
    • `replay_shows`               — after every series of writes,
    • `find?_canonicalize`         — a look-up against the list as it came,
    • `views_show_the_last_snapshots`.
-/
import Mathlib.Data.List.DropRight
import Mathlib.Data.List.Induction
import TunnelControl.Proofs.Peer.Canonical
import TunnelControl.Session.Views

namespace TunnelControl

/-- The peer list of a snapshot that covers the peers. -/
def Snapshot.peerList? : Snapshot → Option (List Wire.Peer)
  | .peers ps => some ps
  | .status _ => none
  | .both _ ps => some ps

/-- The status of a snapshot that covers it. -/
def Snapshot.status? : Snapshot → Option Wire.Status
  | .peers _ => none
  | .status s => some s
  | .both s _ => some s

namespace Views

/-! ## §1. Writes. -/

/-- What is done to views. -/
inductive Write where
  /-- A snapshot is applied at a time. -/
  | apply (now : Nat) (snapshot : Snapshot)
  | clear

/-- The snapshot that is applied, with its time. -/
def Write.snapshot? : Write → Option (Nat × Snapshot)
  | apply now snapshot => some (now, snapshot)
  | clear => none

/-- Does it to views. -/
def write (w : Write) (v : Views) : Views :=
  match w with
  | .apply now snapshot => v.apply now snapshot
  | .clear => v.clear

/-- Does one after the other. -/
def replay (writes : List Write) (v : Views) : Views := writes.foldl (fun v w => v.write w) v

theorem replay_concat (writes : List Write) (w : Write) (v : Views) :
    v.replay (writes ++ [w]) = (v.replay writes).write w := by
  simp only [replay, List.foldl_append, List.foldl_cons, List.foldl_nil]

/-- The snapshots that were applied after the views were emptied last. -/
def sinceClear (writes : List Write) : List (Nat × Snapshot) :=
  (writes.rtakeWhile fun w => w.snapshot?.isSome).filterMap Write.snapshot?

theorem sinceClear_apply (writes : List Write) (now : Nat) (s : Snapshot) :
    sinceClear (writes ++ [.apply now s]) = sinceClear writes ++ [(now, s)] := by
  unfold sinceClear
  rw [List.rtakeWhile_concat_pos _ _ _ rfl, List.filterMap_append]
  rfl

theorem sinceClear_clear (writes : List Write) : sinceClear (writes ++ [.clear]) = [] := by
  unfold sinceClear
  rw [List.rtakeWhile_concat_neg _ _ _ (by decide)]
  rfl

/-! ## §2. What the views show. -/

/-- The peer list that came last. -/
def lastPeers (since : List (Nat × Snapshot)) : Option (List Wire.Peer) :=
  (since.filterMap fun e => e.2.peerList?).getLast?

/-- The status that came last. -/
def lastStatus (since : List (Nat × Snapshot)) : Option Wire.Status :=
  (since.filterMap fun e => e.2.status?).getLast?

/-- The last value of a series, if one more element may add one to it. -/
theorem getLast?_filterMap_concat {α β : Type} (f : α → Option β) (as : List α) (a : α) :
    ((as ++ [a]).filterMap f).getLast? = (f a).or (as.filterMap f).getLast? := by
  rw [List.filterMap_append, List.getLast?_append]
  cases h : f a with
  | none => simp [h]
  | some b => simp [h]

/-- The views show the last of some snapshots. -/
structure Shows (since : List (Nat × Snapshot)) (v : Views) : Prop where
  /-- The peer list that came last, in canonical form; none came, none is shown. -/
  peers : v.peers.value = ((lastPeers since).map canonicalize).getD []
  /-- The status that came last; of it only the peer list is rewritten. -/
  status : v.status.value
    = (lastStatus since).map fun s => { s with peers := canonicalize s.peers }
  /-- The time of the snapshot that came last. -/
  lastUpdate : v.lastUpdate = since.getLast?.map Prod.fst

/-- **One more snapshot is shown where it covers a view, and nowhere else.** -/
theorem Shows.apply {since : List (Nat × Snapshot)} {v : Views} (h : Shows since v) (now : Nat)
    (s : Snapshot) : Shows (since ++ [(now, s)]) (v.apply now s) where
  peers := by
    rw [lastPeers, getLast?_filterMap_concat]
    cases s with
    | peers ps => rfl
    | status s => exact h.peers
    | both s ps => rfl
  status := by
    rw [lastStatus, getLast?_filterMap_concat]
    cases s with
    | peers ps => exact h.status
    | status s => rfl
    | both s ps => rfl
  lastUpdate := by
    rw [List.getLast?_concat]
    rfl

theorem clear_shows (v : Views) : Shows [] v.clear := ⟨rfl, rfl, rfl⟩

/-- **After every series of writes the views show the last snapshots since they
were emptied.** -/
theorem replay_shows (writes : List Write) : Shows (sinceClear writes) (initial.replay writes) := by
  -- from the end, for the last write decides which snapshots still count
  induction writes using List.reverseRecOn with
  | nil => exact ⟨rfl, rfl, rfl⟩
  | append_singleton writes w ih =>
      rw [replay_concat]
      cases w with
      | apply now s =>
          rw [sinceClear_apply]
          exact ih.apply now s
      | clear =>
          rw [sinceClear_clear]
          exact clear_shows _

/-! ## §3. Look-ups. -/

/-- **In a list in canonical form a site is found with its last entry.** -/
theorem find?_canonicalize (site : Int64) (peers : List Wire.Peer) :
    (canonicalize peers).find? (fun p => p.siteId = site) = lastOf? site peers := by
  have once := filter_canonicalize site peers
  rw [← List.head?_filter]
  show ((canonicalize peers).filter fun p => PeerKeys.siteId p = site).head? = _
  rw [once]
  cases lastOf? site peers <;> rfl

theorem Shows.peer? {since : List (Nat × Snapshot)} {v : Views} (h : Shows since v) (site : Int64) :
    v.peer? site = (lastPeers since).bind (lastOf? site) := by
  unfold Views.peer?
  rw [h.peers]
  cases lastPeers since with
  | none => rfl
  | some ps => exact find?_canonicalize site ps

/-! ## §4. The main result. -/

/-- What holds of views after some writes. -/
structure ShowsLastSnapshots (writes : List Write) (v : Views) : Prop where
  /-- They show the last snapshots since they were emptied. -/
  shows : Shows (sinceClear writes) v
  /-- A time is there exactly if a snapshot was applied since then. -/
  updated : v.lastUpdate.isSome = true ↔ sinceClear writes ≠ []
  /-- A site is found with its last entry in the peer list that came last. -/
  peer? : ∀ site, v.peer? site = (lastPeers (sinceClear writes)).bind (lastOf? site)
  /-- A snapshot of the peers does not write the status. -/
  peersAlone : ∀ now ps, (v.apply now (.peers ps)).status = v.status
  /-- A snapshot of the status does not write the peers. -/
  statusAlone : ∀ now s, (v.apply now (.status s)).peers = v.peers

/-- **After every series of writes each view shows the last snapshot that covers
it since the views were emptied**, and a look-up finds what that snapshot says
last of a site. -/
theorem views_show_the_last_snapshots (writes : List Write) :
    ShowsLastSnapshots writes (initial.replay writes) := by
  have shows' := replay_shows writes
  constructor
  case shows => exact shows'
  case updated => rw [shows'.lastUpdate, Option.isSome_map, List.getLast?_isSome]
  case peer? => exact shows'.peer?
  case peersAlone => exact fun _ _ => rfl
  case statusAlone => exact fun _ _ => rfl

/-- A status and a peer list from before the views were emptied are gone; of the
two peer lists after it only the last one is shown. -/
example :
    let peer (site rtt : Int64) : Wire.Peer :=
      ⟨site, "", true, rtt, "", none, false, false, [], []⟩
    let v := initial.replay
      [.apply 1 (.both .blank [peer 7 1]), .clear, .apply 2 (.peers [peer 7 2]),
        .apply 3 (.peers [peer 8 5, peer 9 4, peer 8 3])]
    (v.peers.value, v.status.value, v.lastUpdate, v.peer? 7)
      = ([peer 8 3, peer 9 4], none, some 3, none) := by
  cbv

end Views

end TunnelControl
