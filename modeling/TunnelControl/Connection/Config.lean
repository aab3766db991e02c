/-
  TunnelControl.Connection.Config
  ───────────────────────────────
  **WHAT A CONNECTION IS ASKED FOR.**

  A config is what a caller wants; the checks come later and all at once.

    • `ConnectionConfig`, with its defaults,
    • `cleanServers` — a list of DNS servers without blanks.
-/
import TunnelControl.Duration.Basic
import TunnelControl.Text.Blank

namespace TunnelControl

/-- A connection request before it is checked. -/
structure ConnectionConfig where
  endpoint : String := ""
  id : String := ""
  secret : String := ""
  /-- The token of a user; with it, id, secret and organization may be empty. -/
  userToken : Option String := none
  orgId : String := ""
  mtu : UInt32 := 1420
  dns : String := "9.9.9.9"
  /-- The DNS servers that are asked in turn. -/
  upstreamDns : List String := ["8.8.8.8:53"]
  holepunch : Bool := true
  tunnelDns : Bool := false
  /-- The DNS servers of the system are replaced. -/
  overrideDns : Bool := false
  pingInterval : Duration := Duration.ofParts 3 0
  pingTimeout : Duration := Duration.ofParts 5 0
deriving DecidableEq

/-- The servers without outer blanks; blank entries are dropped. -/
def cleanServers (servers : List String) : List String :=
  (servers.map Text.trim).filter (· ≠ "")

end TunnelControl
