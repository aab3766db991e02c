/-
  TunnelControl.Wire.Peer
  ───────────────────────
  **PEERS ON THE WIRE.**

  A peer list is what the engine pushes and what it answers to a pull.  Only
  the site id of a peer has to be there.

    • `Alias`, `Peer`, with their fields and codecs,
    • `Peer.decodeList` — a whole peer list,
    • `Peer.knownKey` — an empty public key counts as none.
-/
import TunnelControl.Engine.Error
import TunnelControl.Json.Record

namespace TunnelControl.Wire

open Json

/-- A name that a peer serves. -/
structure Alias where
  name : String
  ip : String
deriving DecidableEq

namespace Alias

/-- The types of the fields of an alias. -/
abbrev Columns : List Type := [String, String]

/-- The fields of an alias on the wire. -/
def fields : Fields Columns :=
  .cons (.required "alias" .text) (.cons (.required "ip" .text) .nil)

/-- The alias in a row. -/
def ofRow : Row Columns → Alias := fun (name, ip, ()) => ⟨name, ip⟩

/-- The row of an alias. -/
def toRow (a : Alias) : Row Columns := (a.name, a.ip, ())

/-- The wire form of an alias. -/
def codec : Codec Alias := Codec.record "Alias" fields ofRow toRow

end Alias

/-- A peer in full. -/
structure Peer where
  siteId : Int64
  name : String
  connected : Bool
  rtt : Int64
  endpoint : String
  publicKey : Option String
  isRelay : Bool
  /-- The tunnel was opened by hole punching. -/
  holepunchConnected : Bool
  remoteSubnets : List String
  aliases : List Alias
deriving DecidableEq

namespace Peer

/-- The types of the fields of a peer. -/
abbrev Columns : List Type :=
  [Int64, String, Bool, Int64, String, Option String, Bool, Bool, List String, List Alias]

/-- The fields of a peer on the wire. -/
def fields : Fields Columns :=
  .cons (.required "siteId" .int64)
    (.cons (.defaulted "name" .text "")
    (.cons (.defaulted "connected" .boolean false)
    (.cons (.defaulted "rtt" .int64 0)
    (.cons (.defaulted "endpoint" .text "")
    (.cons (.omittable "publicKey" .text)
    (.cons (.defaulted "isRelay" .boolean false)
    (.cons (.defaulted "holepunchConnected" .boolean false)
    (.cons (.defaulted "remoteSubnets" Codec.text.list [])
    (.cons (.defaulted "aliases" Alias.codec.list []) .nil)))))))))

/-- The peer in a row. -/
def ofRow : Row Columns → Peer :=
  fun (siteId, name, connected, rtt, endpoint, publicKey, isRelay, holepunchConnected,
      remoteSubnets, aliases, ()) =>
    ⟨siteId, name, connected, rtt, endpoint, publicKey, isRelay, holepunchConnected,
      remoteSubnets, aliases⟩

/-- The row of a peer. -/
def toRow (p : Peer) : Row Columns :=
  (p.siteId, p.name, p.connected, p.rtt, p.endpoint, p.publicKey, p.isRelay,
    p.holepunchConnected, p.remoteSubnets, p.aliases, ())

/-- The wire form of a peer. -/
def codec : Codec Peer := Codec.record "Peer" fields ofRow toRow

/-- The wire form of a peer list. -/
def listCodec : Codec (List Peer) := codec.list

/-- The public key; the empty one is none. -/
def knownKey (p : Peer) : Option String := p.publicKey.filter (· ≠ "")

/-- Reads a peer list from an engine body. -/
def decodeList (body : String) : Except EngineError (List Peer) :=
  (listCodec.decode body).mapError fun e => .undecodable "peer list" e body

end Peer

end TunnelControl.Wire
