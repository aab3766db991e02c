/-
  TunnelControl.Wire.Status
  ─────────────────────────
  **STATUS SNAPSHOTS ON THE WIRE.**

  The engine answers a pull with a snapshot of its own state and a short
  entry for every peer.  Every field of a snapshot has a default.

    • `PeerStatus`, `Status`, with their fields and codecs,
    • `Status.decode` — a whole snapshot.
-/
import TunnelControl.Engine.Error
import TunnelControl.Json.Record

namespace TunnelControl.Wire

open Json

/-- The short entry of a peer. -/
structure PeerStatus where
  siteId : Int64
  name : String
  connected : Bool
  rtt : Int64
  endpoint : String
  isRelay : Bool
deriving DecidableEq

namespace PeerStatus

/-- The types of the fields of a short entry. -/
abbrev Columns : List Type := [Int64, String, Bool, Int64, String, Bool]

/-- The fields of a short entry on the wire. -/
def fields : Fields Columns :=
  .cons (.required "siteId" .int64)
    (.cons (.defaulted "name" .text "")
    (.cons (.defaulted "connected" .boolean false)
    (.cons (.defaulted "rtt" .int64 0)
    (.cons (.defaulted "endpoint" .text "")
    (.cons (.defaulted "isRelay" .boolean false) .nil)))))

/-- The short entry in a row. -/
def ofRow : Row Columns → PeerStatus :=
  fun (siteId, name, connected, rtt, endpoint, isRelay, ()) =>
    ⟨siteId, name, connected, rtt, endpoint, isRelay⟩

/-- The row of a short entry. -/
def toRow (p : PeerStatus) : Row Columns :=
  (p.siteId, p.name, p.connected, p.rtt, p.endpoint, p.isRelay, ())

/-- The wire form of a short entry. -/
def codec : Codec PeerStatus := Codec.record "PeerStatus" fields ofRow toRow

end PeerStatus

/-- A snapshot of the engine. -/
structure Status where
  connected : Bool
  registered : Bool
  terminated : Bool
  version : String
  agent : String
  orgId : String
  peers : List PeerStatus
deriving DecidableEq

namespace Status

/-- The snapshot with nothing in it. -/
def blank : Status := ⟨false, false, false, "", "", "", []⟩

/-- The types of the fields of a snapshot. -/
abbrev Columns : List Type := [Bool, Bool, Bool, String, String, String, List PeerStatus]

/-- The fields of a snapshot on the wire. -/
def fields : Fields Columns :=
  .cons (.defaulted "connected" .boolean false)
    (.cons (.defaulted "registered" .boolean false)
    (.cons (.defaulted "terminated" .boolean false)
    (.cons (.defaulted "version" .text "")
    (.cons (.defaulted "agent" .text "")
    (.cons (.defaulted "orgId" .text "")
    (.cons (.defaulted "peers" PeerStatus.codec.list []) .nil))))))

/-- The snapshot in a row. -/
def ofRow : Row Columns → Status :=
  fun (connected, registered, terminated, version, agent, orgId, peers, ()) =>
    ⟨connected, registered, terminated, version, agent, orgId, peers⟩

/-- The row of a snapshot. -/
def toRow (s : Status) : Row Columns :=
  (s.connected, s.registered, s.terminated, s.version, s.agent, s.orgId, s.peers, ())

/-- The wire form of a snapshot. -/
def codec : Codec Status := Codec.record "Status" fields ofRow toRow

/-- Reads a snapshot from an engine body. -/
def decode (body : String) : Except EngineError Status :=
  (codec.decode body).mapError fun e => .undecodable "status" e body

end Status

end TunnelControl.Wire
