/-
  TunnelControl.Connection.Validate
  ─────────────────────────────────
  **THE CHECKS BEFORE ANYTHING CROSSES THE BOUNDARY.**

  A config is either rejected, with every offending setting in a fixed order,
  or turned into the one body that the engine receives: outer blanks removed,
  blank servers dropped, times in the engine's notation.

    • `ConnectionConfig.problems` — all that is wrong,
    • `ConnectionConfig.body`     — the body, if nothing is,
    • `ValidatedConfig`           — a body that passed the checks,
    • `ConnectionConfig.validate` — the way to one.
-/
import TunnelControl.Connection.Config
import TunnelControl.Connection.Problem
import TunnelControl.Wire.Request

namespace TunnelControl

namespace ConnectionConfig

/-- The user token, if it is more than blanks. -/
def token (c : ConnectionConfig) : Option String :=
  (c.userToken.map Text.trim).filter (· ≠ "")

/-- A problem unless the test holds. -/
def problemUnless (ok : Bool) (setting : Setting) (reason : Reason) : List Problem :=
  if ok then [] else [⟨setting, reason⟩]

/-- Everything that is wrong, in the order of the checks. -/
def problems (c : ConnectionConfig) : List Problem :=
  problemUnless (!Text.isBlankText c.endpoint) .endpoint .blank
    ++ (if c.token.isSome then []
        else problemUnless (!Text.isBlankText c.id) .id .blankWithoutToken
          ++ problemUnless (!Text.isBlankText c.secret) .secret .blankWithoutToken
          ++ problemUnless (!Text.isBlankText c.orgId) .orgId .blankWithoutToken)
    ++ problemUnless (mtuInRange c.mtu.toNat) .mtu (.outOfRange c.mtu.toNat)
    ++ problemUnless (!c.pingInterval.isZero) .pingInterval .zero
    ++ problemUnless (!c.pingTimeout.isZero) .pingTimeout .zero

/-- The body of a config without problems. -/
def body (c : ConnectionConfig) : Wire.ConnectBody where
  endpoint := Text.trim c.endpoint
  id := Text.trim c.id
  secret := c.secret
  userToken := c.token
  orgId := Text.trim c.orgId
  mtu := c.mtu.toUInt16
  dns := Text.trim c.dns
  upstreamDns := cleanServers c.upstreamDns
  holepunch := c.holepunch
  tunnelDns := c.tunnelDns
  overrideDns := c.overrideDns
  pingInterval := c.pingInterval.engineText
  pingTimeout := c.pingTimeout.engineText

end ConnectionConfig

/-- A config that passed the checks, as the body that the engine receives.
There is no other way to one than by a config without problems. -/
structure ValidatedConfig where
  /-- The body. -/
  body : Wire.ConnectBody
  /-- It is the body of a config without problems. -/
  checked : ∃ c : ConnectionConfig, c.problems = [] ∧ c.body = body
deriving DecidableEq

namespace ValidatedConfig

/-- The text that the connect call carries. -/
def json (v : ValidatedConfig) : String := Wire.ConnectBody.codec.encode v.body

/-- The organization. -/
def orgId (v : ValidatedConfig) : String := v.body.orgId

/-- The debug text, which leaves credentials out. -/
def debugText (v : ValidatedConfig) : String :=
  Text.debugRecord "ValidatedConfig"
    [("endpoint", Text.quoted v.body.endpoint), ("id", Text.quoted v.body.id),
      ("org_id", Text.quoted v.body.orgId), ("mtu", Text.ofNat v.body.mtu.toNat)] true

end ValidatedConfig

/-- Checks a config. -/
def ConnectionConfig.validate (c : ConnectionConfig) : Except Rejected ValidatedConfig :=
  if h : c.problems = [] then .ok ⟨c.body, c, h, rfl⟩ else .error ⟨c.problems⟩

end TunnelControl
