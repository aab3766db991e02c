/-
  TunnelControl.Peer.Order
  ────────────────────────
  **THE ORDER IN WHICH PEERS ARE SHOWN.**

  Connected peers come first, then the fastest, then the lowest site id.
  Full peers and short entries are ordered by the same three keys, so that
  the two views agree.

    • `PeerKeys`     — the keys,
    • `sortPeers`    — a stable sort by them,
    • `canonicalize` — one entry for each site id, the last one, then sorted.
-/
import TunnelControl.Text.Numeral
import TunnelControl.Wire.Peer
import TunnelControl.Wire.Status

namespace TunnelControl

/-- Entries that are ordered as peers. -/
class PeerKeys (α : Type) where
  siteId : α → Int64
  connected : α → Bool
  rtt : α → Int64

instance : PeerKeys Wire.Peer := ⟨(·.siteId), (·.connected), (·.rtt)⟩
instance : PeerKeys Wire.PeerStatus := ⟨(·.siteId), (·.connected), (·.rtt)⟩

variable {α : Type} [PeerKeys α]

/-- The first entry does not come after the second. -/
def peerLE (a b : α) : Bool :=
  if PeerKeys.connected a ≠ PeerKeys.connected b then PeerKeys.connected a
  else if PeerKeys.rtt a ≠ PeerKeys.rtt b then PeerKeys.rtt a < PeerKeys.rtt b
  else PeerKeys.siteId a ≤ PeerKeys.siteId b

/-- Entries in the order in which they are shown; equal ones keep theirs. -/
def sortPeers (peers : List α) : List α := peers.mergeSort peerLE

/-- Keeps the last entry of each site id. -/
def lastPerSite : List α → List α
  | [] => []
  | p :: ps =>
      if ps.any (PeerKeys.siteId · = PeerKeys.siteId p) then lastPerSite ps
      else p :: lastPerSite ps

/-- A peer list as views hold it. -/
def canonicalize (peers : List α) : List α := sortPeers (lastPerSite peers)

/-- The number of connected peers. -/
def connectedCount (peers : List α) : Nat := peers.countP PeerKeys.connected

/-- A round-trip time in milliseconds, for display. -/
def rttText (ms : Int64) : String :=
  if ms < 1 then "< 1 ms"
  else if ms < 1000 then Text.ofInt ms.toInt ++ " ms"
  else Text.ofInt (ms.toInt / 1000) ++ "." ++ Text.ofInt (ms.toInt % 1000 / 100) ++ " s"

end TunnelControl
