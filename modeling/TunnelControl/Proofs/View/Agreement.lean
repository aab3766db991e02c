/-
  TunnelControl.Proofs.View.Agreement
  ───────────────────────────────────
  **BOTH VIEWS SHOW THEIR PEERS IN ONE ORDER.**

  A peer is seen in the peer view, and its short entry in the status view.  The
  two are pushed or pulled, together or apart, and nothing compares them.  They
  agree all the same: each list is brought into one form when it comes, and that
  form depends on the keys alone.

    • `Views.Ordered`, `Coordinator.run_ordered` — in a session both views are
                                                   in the strict order at any time,
    • `Views.Shows.entries`                      — the short entries of what is shown,
    • `ViewsAgree`, `views_agree_on_order`.
-/
import TunnelControl.Proofs.Peer.Stability
import TunnelControl.Proofs.View.Watching

namespace TunnelControl

/-! ## §1. The order of what is shown. -/

/-- Both views are in the strict order. -/
structure Views.Ordered (v : Views) : Prop where
  peers : v.peers.value.Pairwise Precedes
  entries : ∀ s, v.status.value = some s → s.peers.Pairwise Precedes

namespace Views

variable {v : Views}

theorem Ordered.replacePeers (h : v.Ordered) (peers : List Wire.Peer) :
    (v.replacePeers peers).Ordered := ⟨canonicalize_precedes peers, h.entries⟩

theorem Ordered.replaceStatus (h : v.Ordered) (s : Wire.Status) : (v.replaceStatus s).Ordered := by
  refine ⟨h.peers, ?_⟩
  rintro _ ⟨⟩
  exact canonicalize_precedes s.peers

/-- **A snapshot is put in order where it covers a view**; the other view stays. -/
theorem Ordered.apply (h : v.Ordered) (now : Nat) (snapshot : Snapshot) :
    (v.apply now snapshot).Ordered := by
  cases snapshot with
  | peers ps =>
      have written := h.replacePeers ps
      exact ⟨written.peers, written.entries⟩
  | status s =>
      have written := h.replaceStatus s
      exact ⟨written.peers, written.entries⟩
  | both s ps =>
      have written := (h.replaceStatus s).replacePeers ps
      exact ⟨written.peers, written.entries⟩

theorem clear_ordered (v : Views) : v.clear.Ordered := ⟨.nil, fun _ e => nomatch e⟩

theorem initial_ordered : initial.Ordered := ⟨.nil, fun _ e => nomatch e⟩

end Views

theorem Display.ordered_write {d : Display} (h : d.views.Ordered) (w : Write) :
    (d.write w).views.Ordered := by
  cases w with
  | publish next => exact h
  | apply now snapshot => exact h.apply now snapshot
  | clear => exact d.views.clear_ordered

theorem Display.ordered_writes {d : Display} (h : d.views.Ordered) (ws : List Write) :
    (d.writes ws).views.Ordered := by
  induction ws generalizing d with
  | nil => exact h
  | cons w ws ih => exact ih (ordered_write h w)

/-- **In every reachable state of a session both views are in the strict order.** -/
theorem Coordinator.run_ordered (interval : Nat) (actions : List Action) :
    ((start interval).run actions).views.Ordered := by
  obtain ⟨ws, e⟩ := run_display interval actions
  have ordered := Display.ordered_writes (d := .initial) Views.initial_ordered ws
  rwa [← e] at ordered

/-! ## §2. Peers and their short entries. -/

/-- **If the peers and their short entries came last, the short entries of what
is shown of the peers are shown.** -/
theorem Views.Shows.entries {since : List (Nat × Snapshot)} {v : Views} (h : Shows since v)
    {short : Wire.Peer → Wire.PeerStatus} (keeps : KeepsKeys short) {peers : List Wire.Peer}
    {s : Wire.Status} (came : lastPeers since = some peers) (status : lastStatus since = some s)
    (alike : s.peers = peers.map short) :
    v.status.value = some { s with peers := v.peers.value.map short } := by
  have entries : canonicalize s.peers = v.peers.value.map short := by
    rw [alike, canonicalize_map keeps, h.peers, came]
    rfl
  rw [h.status, status, Option.map_some, entries]

/-! ## §3. The main result. -/

/-- The peer view and the status view agree, for a way to shorten peers. -/
structure ViewsAgree (short : Wire.Peer → Wire.PeerStatus) : Prop where
  /-- A list has one form, whether its peers are shortened before or after. -/
  canonical : ∀ peers, canonicalize (peers.map short) = (canonicalize peers).map short
  /-- Peers are sorted stably. -/
  peers : ∀ peers sorted : List Wire.Peer, StablySorted peers sorted ↔ sorted = sortPeers peers
  /-- So are short entries. -/
  entries : ∀ entries sorted : List Wire.PeerStatus,
    StablySorted entries sorted ↔ sorted = sortPeers entries
  /-- Whatever was written before: if the peers that came last and the entries that
  came last are the same ones, both views show the same ones. -/
  shown : ∀ writes peers s, Views.lastPeers (Views.sinceClear writes) = some peers →
    Views.lastStatus (Views.sinceClear writes) = some s → s.peers = peers.map short →
    (Views.initial.replay writes).status.value
      = some { s with peers := (Views.initial.replay writes).peers.value.map short }
  /-- Whatever a session has been through when its peers are looked at, and when its
  status is: where entries have the keys of peers, they stand in the same order. -/
  session : ∀ interval actions actions' s,
    ((Coordinator.start interval).run actions').views.status.value = some s →
    AgreeOnOrder ((Coordinator.start interval).run actions).views.peers.value s.peers

/-- **The peer view and the status view never disagree on order**: a map that
keeps the keys of peers may come before or after their canonical form, sorting
is stable for peers and for short entries, and so the views show them alike. -/
theorem views_agree_on_order {short : Wire.Peer → Wire.PeerStatus} (keeps : KeepsKeys short) :
    ViewsAgree short where
  canonical := canonicalize_map keeps
  peers := fun _ _ => stablySorted_iff
  entries := fun _ _ => stablySorted_iff
  shown := fun writes _ _ came status alike =>
    (Views.replay_shows writes).entries keeps came status alike
  session := by
    intro interval actions actions' s status
    have peers := (Coordinator.run_ordered interval actions).peers
    have entries := (Coordinator.run_ordered interval actions').entries s status
    exact agreeOnOrder_of_precedes peers entries

/-- The short entry of a peer. -/
def Wire.Peer.entry (p : Wire.Peer) : Wire.PeerStatus :=
  ⟨p.siteId, p.name, p.connected, p.rtt, p.endpoint, p.isRelay⟩

/-- A site that occurs twice and sites that are equally fast, the peers pushed and
the status pulled later on. -/
theorem repeated_peers_are_shown_alike :
    let peer (site : Int64) (name : String) (connected : Bool) (rtt : Int64) : Wire.Peer :=
      ⟨site, name, connected, rtt, "", none, false, false, [], []⟩
    let peers := [peer 4 "a" true 1, peer 9 "b" true 5, peer 4 "c" true 5, peer 2 "d" false 0]
    let s : Wire.Status := { Wire.Status.blank with peers := peers.map Wire.Peer.entry }
    let v := Views.initial.replay [.clear, .apply 1 (.peers peers), .apply 2 (.status s)]
    KeepsKeys Wire.Peer.entry ∧ ViewsAgree Wire.Peer.entry
      ∧ v.peers.value.map (·.name) = ["c", "b", "d"]
      ∧ v.status.value = some { s with peers := v.peers.value.map Wire.Peer.entry } := by
  intro peer peers s v
  have keeps : KeepsKeys Wire.Peer.entry := fun _ => ⟨rfl, rfl, rfl⟩
  have agree := views_agree_on_order keeps
  have kept : lastPerSite peers = [peer 9 "b" true 5, peer 4 "c" true 5, peer 2 "d" false 0] := by
    decide +revert
  have names : (canonicalize peers).map (·.name) = ["c", "b", "d"] := by
    unfold canonicalize sortPeers
    rw [kept]
    simp +decide [List.mergeSort, peerLE, peer]
  exact ⟨keeps, agree, names, agree.shown _ peers s rfl rfl rfl⟩

end TunnelControl
