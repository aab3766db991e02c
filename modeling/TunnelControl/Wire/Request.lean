/-
  TunnelControl.Wire.Request
  ──────────────────────────
  **BODIES THAT ARE SENT TO THE ENGINE.**

    • `ConnectBody`    — what a connect call carries,
    • `SettingsUpdate` — a partial change of the running settings: only the
                         fields that have a value are written.
-/
import TunnelControl.Json.Record

namespace TunnelControl.Wire

open Json

/-- The body of a connect call. -/
structure ConnectBody where
  endpoint : String
  id : String
  secret : String
  /-- The token of a user, instead of id and secret. -/
  userToken : Option String
  orgId : String
  mtu : UInt16
  dns : String
  /-- The DNS servers that are asked in turn. -/
  upstreamDns : List String
  holepunch : Bool
  tunnelDns : Bool
  /-- The DNS servers of the system are replaced. -/
  overrideDns : Bool
  pingInterval : String
  pingTimeout : String
deriving DecidableEq

namespace ConnectBody

/-- The types of the fields of a connect body. -/
abbrev Columns : List Type :=
  [String, String, String, Option String, String, UInt16, String, List String, Bool, Bool, Bool,
    String, String]

/-- The fields of a connect body on the wire. -/
def fields : Fields Columns :=
  .cons (.required "endpoint" .text)
    (.cons (.required "id" .text)
    (.cons (.required "secret" .text)
    (.cons (.omittable "userToken" .text)
    (.cons (.required "orgId" .text)
    (.cons (.required "mtu" .uint16)
    (.cons (.required "dns" .text)
    (.cons (.defaulted "upstreamDNS" Codec.text.list [])
    (.cons (.required "holepunch" .boolean)
    (.cons (.required "tunnelDNS" .boolean)
    (.cons (.required "overrideDNS" .boolean)
    (.cons (.required "pingInterval" .text)
    (.cons (.required "pingTimeout" .text) .nil))))))))))))

/-- The connect body in a row. -/
def ofRow : Row Columns → ConnectBody :=
  fun (endpoint, id, secret, userToken, orgId, mtu, dns, upstreamDns, holepunch, tunnelDns,
      overrideDns, pingInterval, pingTimeout, ()) =>
    ⟨endpoint, id, secret, userToken, orgId, mtu, dns, upstreamDns, holepunch, tunnelDns,
      overrideDns, pingInterval, pingTimeout⟩

/-- The row of a connect body. -/
def toRow (b : ConnectBody) : Row Columns :=
  (b.endpoint, b.id, b.secret, b.userToken, b.orgId, b.mtu, b.dns, b.upstreamDns,
    b.holepunch, b.tunnelDns, b.overrideDns, b.pingInterval, b.pingTimeout, ())

/-- The wire form of a connect body. -/
def codec : Codec ConnectBody := Codec.record "ConnectionConfigPayload" fields ofRow toRow

end ConnectBody

/-- A partial change of the running settings. -/
structure SettingsUpdate where
  logLevel : Option String
deriving DecidableEq

namespace SettingsUpdate

/-- The types of the fields of a settings update. -/
abbrev Columns : List Type := [Option String]

/-- The fields of a settings update on the wire. -/
def fields : Fields Columns := .cons (.omittable "logLevel" .text) .nil

/-- The settings update in a row. -/
def ofRow : Row Columns → SettingsUpdate := fun (logLevel, ()) => ⟨logLevel⟩

/-- The row of a settings update. -/
def toRow (u : SettingsUpdate) : Row Columns := (u.logLevel, ())

/-- The wire form of a settings update. -/
def codec : Codec SettingsUpdate := Codec.record "SettingsUpdate" fields ofRow toRow

end SettingsUpdate

end TunnelControl.Wire
