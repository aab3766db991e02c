/-
  TunnelControl.Settings.Basic
  ────────────────────────────
  **THE SETTINGS THAT ARE KEPT.**

  The record that a person edits and a store keeps.  Times and the log level
  are texts here and are read when they are needed.

    • `Settings`, with its defaults and `Settings.codec`,
    • `Settings.debugText` — credentials are shown only as present or absent,
    • `Settings.toConfig`  — the config to connect with.
-/
import TunnelControl.Connection.Config
import TunnelControl.Connection.Problem
import TunnelControl.Json.Record
import TunnelControl.Settings.LogLevel

namespace TunnelControl

open Json

/-- The settings that are kept. -/
structure Settings where
  endpoint : String := ""
  id : String := ""
  secret : String := ""
  /-- The token of a user; the empty text is none. -/
  userToken : String := ""
  orgId : String := ""
  mtu : UInt32 := 1420
  dns : String := "9.9.9.9"
  /-- The DNS servers that are asked in turn. -/
  upstreamDns : List String := ["8.8.8.8:53"]
  holepunch : Bool := true
  tunnelDns : Bool := false
  /-- The DNS servers of the system are replaced. -/
  overrideDns : Bool := false
  pingInterval : String := "3s"
  pingTimeout : String := "5s"
  logLevel : String := "INFO"
deriving DecidableEq

namespace Settings

/-- The settings of a new installation. -/
def default : Settings := {}

/-- The types of the fields of the settings. -/
abbrev Columns : List Type :=
  [String, String, String, String, String, UInt32, String, List String, Bool, Bool, Bool, String,
    String, String]

/-- The fields of the settings on the wire; each may be missing. -/
def fields : Fields Columns :=
  let d := default
  .cons (.defaulted "endpoint" .text d.endpoint)
    (.cons (.defaulted "id" .text d.id)
    (.cons (.defaulted "secret" .text d.secret)
    (.cons (.defaulted "userToken" .text d.userToken)
    (.cons (.defaulted "orgId" .text d.orgId)
    (.cons (.defaulted "mtu" .uint32 d.mtu)
    (.cons (.defaulted "dns" .text d.dns)
    (.cons (.defaulted "upstreamDNS" Codec.text.list d.upstreamDns)
    (.cons (.defaulted "holepunch" .boolean d.holepunch)
    (.cons (.defaulted "tunnelDNS" .boolean d.tunnelDns)
    (.cons (.defaulted "overrideDNS" .boolean d.overrideDns)
    (.cons (.defaulted "pingInterval" .text d.pingInterval)
    (.cons (.defaulted "pingTimeout" .text d.pingTimeout)
    (.cons (.defaulted "logLevel" .text d.logLevel) .nil)))))))))))))

/-- The settings in a row. -/
def ofRow : Row Columns → Settings :=
  fun (endpoint, id, secret, userToken, orgId, mtu, dns, upstreamDns, holepunch, tunnelDns,
      overrideDns, pingInterval, pingTimeout, logLevel, ()) =>
    ⟨endpoint, id, secret, userToken, orgId, mtu, dns, upstreamDns, holepunch, tunnelDns,
      overrideDns, pingInterval, pingTimeout, logLevel⟩

/-- The row of settings. -/
def toRow (s : Settings) : Row Columns :=
  (s.endpoint, s.id, s.secret, s.userToken, s.orgId, s.mtu, s.dns, s.upstreamDns,
    s.holepunch, s.tunnelDns, s.overrideDns, s.pingInterval, s.pingTimeout, s.logLevel, ())

/-- The wire form of the settings. -/
def codec : Codec Settings := Codec.record "Settings" fields ofRow toRow

/-- The text of the settings as they are stored. -/
def json (s : Settings) : String := codec.encode s

/-- Four stars for a credential, nothing for none. -/
def masked (credential : String) : String := if credential = "" then "" else "****"

/-- A truth value in words. -/
def truth (b : Bool) : String := if b then "true" else "false"

/-- The debug text, without the credentials. -/
def debugText (s : Settings) : String :=
  Text.debugRecord "Settings"
    [("endpoint", Text.quoted s.endpoint), ("id", Text.quoted s.id),
      ("secret", Text.quoted (masked s.secret)), ("user_token", Text.quoted (masked s.userToken)),
      ("org_id", Text.quoted s.orgId), ("mtu", Text.ofNat s.mtu.toNat),
      ("dns", Text.quoted s.dns),
      ("upstream_dns", Text.debugList (s.upstreamDns.map Text.quoted)),
      ("holepunch", truth s.holepunch), ("tunnel_dns", truth s.tunnelDns),
      ("override_dns", truth s.overrideDns), ("ping_interval", Text.quoted s.pingInterval),
      ("ping_timeout", Text.quoted s.pingTimeout), ("log_level", Text.quoted s.logLevel)] false

/-- The log level; a text that is none counts as `INFO`. -/
def level (s : Settings) : LogLevel := LogLevel.leniently s.logLevel

/-- What is wrong with a time. -/
def durationProblems (setting : Setting) (raw : String) : List Problem :=
  match Duration.parse raw with
  | .ok _ => []
  | .error e => [⟨setting, .noDuration raw e⟩]

/-- The config to connect with.  Only the times are checked here; the other
checks come with the validation, all at once. -/
def toConfig (s : Settings) : Except Rejected ConnectionConfig :=
  match Duration.parse s.pingInterval, Duration.parse s.pingTimeout with
  | .ok interval, .ok timeout =>
      .ok
        { endpoint := s.endpoint
          id := s.id
          secret := s.secret
          userToken := if Text.isBlankText s.userToken then none else some s.userToken
          orgId := s.orgId
          mtu := s.mtu
          dns := s.dns
          upstreamDns := s.upstreamDns
          holepunch := s.holepunch
          tunnelDns := s.tunnelDns
          overrideDns := s.overrideDns
          pingInterval := interval
          pingTimeout := timeout }
  | _, _ =>
      .error ⟨durationProblems .pingInterval s.pingInterval
        ++ durationProblems .pingTimeout s.pingTimeout⟩

/-! ## Edits. -/

/-- Sets the MTU; one out of range is refused. -/
def setMtu (mtu : UInt32) (s : Settings) : Except Rejected Settings :=
  if mtuInRange mtu.toNat then .ok { s with mtu := mtu }
  else .error (.because .mtu (.outOfRange mtu.toNat))

/-- Sets the servers that are asked in turn, without blanks. -/
def setUpstreamDns (servers : List String) (s : Settings) : Settings :=
  { s with upstreamDns := cleanServers servers }

/-- Sets the log level. -/
def setLogLevel (level : LogLevel) (s : Settings) : Settings :=
  { s with logLevel := level.name }

end Settings

end TunnelControl
