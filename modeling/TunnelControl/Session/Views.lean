/-
  TunnelControl.Session.Views
  ───────────────────────────
  **WHAT OBSERVERS SEE OF THE ENGINE.**

  The peer list and the status come in snapshots, pushed by the engine or
  pulled from it.  A snapshot replaces the views that it covers as a whole
  and leaves the other one alone; nothing is merged.

    • `Snapshot`, `Snapshot.ofAnswers` — what a pull brings,
    • `Views`, `Views.apply`, `Views.clear`.
-/
import TunnelControl.Peer.Order
import TunnelControl.View.Channel

namespace TunnelControl

/-- A decoded snapshot. -/
inductive Snapshot where
  | peers (peers : List Wire.Peer)
  | status (status : Wire.Status)
  | both (status : Wire.Status) (peers : List Wire.Peer)

/-- How the engine answers one of the two questions of a pull. -/
inductive PullAnswer where
  | body (text : String)
  | failed
  /-- The call did not come to an end. -/
  | panicked
deriving DecidableEq

/-- The snapshot of the two answers of a pull: what was delivered and can be
decoded.  A call that did not come to an end leaves nothing. -/
def Snapshot.ofAnswers (status peers : PullAnswer) : Option Snapshot :=
  match status, peers with
  | .panicked, _ => none
  | _, .panicked => none
  | status, peers =>
      let s := match status with
        | .body text => (Wire.Status.decode text).toOption
        | _ => none
      let p := match peers with
        | .body text => (Wire.Peer.decodeList text).toOption
        | _ => none
      match s, p with
      | some s, some p => some (.both s p)
      | some s, none => some (.status s)
      | none, some p => some (.peers p)
      | none, none => none

/-- The views of the engine. -/
structure Views where
  peers : Channel (List Wire.Peer)
  status : Channel (Option Wire.Status)
  /-- The time of the last snapshot. -/
  lastUpdate : Option Nat

namespace Views

/-- Nothing was seen yet. -/
def initial : Views := ⟨.initial [], .initial none, none⟩

/-- A status with its peers as views hold them. -/
def canonicalStatus (s : Wire.Status) : Wire.Status := { s with peers := canonicalize s.peers }

/-- Replaces the peer list. -/
def replacePeers (peers : List Wire.Peer) (v : Views) : Views :=
  { v with peers := v.peers.publish (canonicalize peers) }

/-- Replaces the status. -/
def replaceStatus (status : Wire.Status) (v : Views) : Views :=
  { v with status := v.status.publish (some (canonicalStatus status)) }

/-- Replaces what a snapshot covers. -/
def apply (now : Nat) (snapshot : Snapshot) (v : Views) : Views :=
  let v := match snapshot with
    | .peers ps => v.replacePeers ps
    | .status s => v.replaceStatus s
    | .both s ps => (v.replaceStatus s).replacePeers ps
  { v with lastUpdate := some now }

/-- Empties the views. -/
def clear (v : Views) : Views :=
  { peers := v.peers.publish [], status := v.status.publish none, lastUpdate := none }

/-- The peer of a site. -/
def peer? (site : Int64) (v : Views) : Option Wire.Peer :=
  v.peers.value.find? (·.siteId = site)

end Views

end TunnelControl
