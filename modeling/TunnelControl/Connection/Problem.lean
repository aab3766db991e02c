/-
  TunnelControl.Connection.Problem
  ────────────────────────────────
  **WHAT IS WRONG WITH A CONFIG OR AN EDIT.**

  A rejection names every offending setting, as it is spelled on the wire,
  with the reason.

    • `Setting`  — the names,
    • `Reason`   — the causes, with `text`,
    • `Rejected` — a list of problems, with `message` and `mentions`.
-/
import TunnelControl.Duration.Reader

namespace TunnelControl

/-- The settings of a connection. -/
inductive Setting where
  | endpoint
  | id
  | secret
  | userToken
  | orgId
  | mtu
  | dns
  /-- The DNS servers that are asked in turn. -/
  | upstreamDns
  | holepunch
  | tunnelDns
  /-- The DNS servers of the system are replaced. -/
  | overrideDns
  | pingInterval
  | pingTimeout
  | logLevel
deriving DecidableEq

/-- The name of a setting on the wire. -/
def Setting.wireName : Setting → String
  | endpoint => "endpoint"
  | id => "id"
  | secret => "secret"
  | userToken => "userToken"
  | orgId => "orgId"
  | mtu => "mtu"
  | dns => "dns"
  | upstreamDns => "upstreamDNS"
  | holepunch => "holepunch"
  | tunnelDns => "tunnelDNS"
  | overrideDns => "overrideDNS"
  | pingInterval => "pingInterval"
  | pingTimeout => "pingTimeout"
  | logLevel => "logLevel"

/-- Why a setting is rejected. -/
inductive Reason where
  | blank
  /-- Nothing but blanks, and no user token stands in for it. -/
  | blankWithoutToken
  | outOfRange (mtu : Nat)
  | zero
  | noDuration (raw : String) (cause : Duration.ReadError)
  | noNumber (raw : String)
  /-- A text that is no truth value. -/
  | noBoolean (raw : String)
  /-- A text that is no log level. -/
  | noLogLevel (raw : String)
deriving DecidableEq

/-- The least and the greatest MTU. -/
def mtuBounds : Nat × Nat := (1280, 1500)

/-- An MTU within its bounds. -/
def mtuInRange (mtu : Nat) : Bool := mtuBounds.1 ≤ mtu && mtu ≤ mtuBounds.2

/-- The wording of a reason. -/
def Reason.text : Reason → String
  | blank => "must not be empty"
  | blankWithoutToken => "must not be empty without a user token"
  | outOfRange mtu =>
      Text.ofNat mtu ++ " is outside " ++ Text.ofNat mtuBounds.1 ++ "..=" ++ Text.ofNat mtuBounds.2
  | zero => "must be greater than zero"
  | noDuration raw cause => "'" ++ raw ++ "' is not a duration: " ++ cause.message
  | noNumber raw => "'" ++ raw ++ "' is not a number"
  | noBoolean raw => "'" ++ raw ++ "' is not true or false"
  | noLogLevel raw => "'" ++ raw ++ "' is not one of DEBUG, INFO, WARN, ERROR"

/-- An offending setting. -/
structure Problem where
  setting : Setting
  reason : Reason
deriving DecidableEq

/-- A problem in words. -/
def Problem.text (p : Problem) : String := p.setting.wireName ++ ": " ++ p.reason.text

/-- A config or an edit was rejected. -/
structure Rejected where
  problems : List Problem
deriving DecidableEq

namespace Rejected

/-- A rejection because of one setting. -/
def because (setting : Setting) (reason : Reason) : Rejected := ⟨[⟨setting, reason⟩]⟩

/-- The wording of a rejection. -/
def message (r : Rejected) : String :=
  "Invalid connection config: " ++ String.intercalate "; " (r.problems.map Problem.text)

/-- Is the setting of this wire name among the offending ones? -/
def mentions (r : Rejected) (name : String) : Bool :=
  r.problems.any fun p => p.setting.wireName == name

end Rejected

end TunnelControl
