/-
  TunnelControl.Provision.Spec
  ────────────────────────────
  **THE INTERFACE THAT IS DESCRIBED.**

  A tunnel interface is described step by step: an MTU, addresses, routes and
  DNS servers.  A step that is refused changes nothing.  Addresses and routes
  are sets; DNS servers keep the order in which they were added.

    • `ProvisionError` — all that can go wrong on the way to an interface,
    • `InterfaceSpec`, with one operation a step,
    • `InterfaceSpec.checkUsable` — an MTU and an address are needed.
-/
import TunnelControl.Address.Network
import TunnelControl.Connection.Problem

namespace TunnelControl

/-- What an unusable description lacks. -/
inductive SpecFault where
  | noMtu
  | noAddress
deriving DecidableEq

/-- The wording of a fault. -/
def SpecFault.text : SpecFault → String
  | noMtu => "no MTU set"
  | noAddress => "no interface address"

/-- Why there is no interface. -/
inductive ProvisionError where
  | noService
  | unusable (fault : SpecFault)
  | alreadyEstablished
  | staleAttempt
  | denied (cause : String)
  | alreadyDetached
  /-- An address or prefix length is not valid. -/
  | address (cause : AddressError)
  | invalidMtu (mtu : UInt32)
deriving DecidableEq

/-- The wording of a provisioning error. -/
def ProvisionError.message : ProvisionError → String
  | noService => "No VPN service is attached"
  | unusable fault => "Interface spec is not usable: " ++ fault.text
  | alreadyEstablished => "An interface was already established for this connect attempt"
  | staleAttempt => "The connect attempt this builder belonged to has ended"
  | denied _ => "Operating system refused to create the tunnel interface"
  | alreadyDetached => "Interface handle was already detached"
  | address cause => cause.message
  | invalidMtu mtu => "MTU " ++ Text.ofNat mtu.toNat ++ " is out of range"

/-- The description of a tunnel interface. -/
structure InterfaceSpec where
  mtu : Option UInt32
  addresses : PrefixSet
  routes : PrefixSet
  /-- The DNS servers, in the order they were added, each once. -/
  dnsServers : List IpAddress
deriving DecidableEq

namespace InterfaceSpec

/-- Nothing is described yet. -/
def empty : InterfaceSpec := ⟨none, [], [], []⟩

/-- Sets the MTU; the last one counts. -/
def setMtu (mtu : UInt32) (s : InterfaceSpec) : Except ProvisionError InterfaceSpec :=
  if mtuInRange mtu.toNat then .ok { s with mtu := some mtu } else .error (.invalidMtu mtu)

/-- Adds an address. -/
def addAddress (address : String) (length : Nat) (s : InterfaceSpec) :
    Except ProvisionError InterfaceSpec :=
  match IpPrefix.parse address length with
  | .ok p => .ok { s with addresses := PrefixSet.insert p s.addresses }
  | .error e => .error (.address e)

/-- Adds a route. -/
def addRoute (address : String) (length : Nat) (s : InterfaceSpec) :
    Except ProvisionError InterfaceSpec :=
  match IpPrefix.parse address length with
  | .ok p => .ok { s with routes := PrefixSet.insert p s.routes }
  | .error e => .error (.address e)

/-- Adds a DNS server, unless it is there. -/
def addDns (address : String) (s : InterfaceSpec) : Except ProvisionError InterfaceSpec :=
  match IpAddress.parse address with
  | .ok a => .ok { s with dnsServers := if a ∈ s.dnsServers then s.dnsServers else s.dnsServers ++ [a] }
  | .error e => .error (.address e)

/-- An interface needs an MTU and an address. -/
def checkUsable (s : InterfaceSpec) : Except ProvisionError Unit :=
  if s.mtu.isNone then .error (.unusable .noMtu)
  else if s.addresses.isEmpty then .error (.unusable .noAddress)
  else .ok ()

/-- The debug text of a description. -/
def debugText (s : InterfaceSpec) : String :=
  let mtu := match s.mtu with
    | none => "None"
    | some m => "Some(" ++ Text.ofNat m.toNat ++ ")"
  Text.debugRecord "TunnelInterfaceSpec"
    [("mtu", mtu), ("addresses", Text.debugSet (s.addresses.map IpPrefix.debugText)),
      ("routes", Text.debugSet (s.routes.map IpPrefix.debugText)),
      ("dns_servers", Text.debugList (s.dnsServers.map IpAddress.text))] false

end InterfaceSpec

end TunnelControl
