/-
  TunnelControl.Provision.Plan
  ────────────────────────────
  **THE USUAL INTERFACE.**

  A plan lists what an engine usually wants: MTU, tunnel address, a route to
  its own services, the default route, further routes, a DNS server.  MTU,
  address and default route are needed; the rest is added as far as it is
  valid.

    • `InterfacePlan`, `InterfacePlan.apply`.
-/
import TunnelControl.Provision.Spec

namespace TunnelControl

/-- What an engine wants the tunnel to look like. -/
structure InterfacePlan where
  /-- The tunnel address, bare or with a prefix length. -/
  tunnelIp : String
  mtu : UInt32
  dns : Option String
  routes : List String
  /-- The network of the engine's own services. -/
  utilitySubnet : Option String
deriving DecidableEq

namespace InterfacePlan

/-- Adds a route as far as it is valid. -/
def tryRoute (cidr : String) (s : InterfaceSpec) : InterfaceSpec :=
  match IpPrefix.ofCidr cidr with
  | .ok p => (s.addRoute p.address.text p.length).toOption.getD s
  | .error _ => s

/-- Adds a DNS server as far as it is valid. -/
def tryDns (address : String) (s : InterfaceSpec) : InterfaceSpec :=
  (s.addDns address).toOption.getD s

/-- A text that is there and not empty. -/
def given (text : Option String) : Option String := text.filter (· ≠ "")

/-- What comes after the address: the routes and the DNS server. -/
def applyRoutes (plan : InterfacePlan) (s : InterfaceSpec) : Except ProvisionError InterfaceSpec := do
  let s := match given plan.utilitySubnet with
    | some subnet => tryRoute subnet s
    | none => s
  let s ← s.addRoute "0.0.0.0" 0
  let s := plan.routes.foldl (fun s route => tryRoute route s) s
  return match given plan.dns with
    | some dns => tryDns dns s
    | none => s

/-- Adds the tunnel address. -/
def applyAddress (plan : InterfacePlan) (s : InterfaceSpec) : Except ProvisionError InterfaceSpec :=
  match IpPrefix.ofCidr plan.tunnelIp with
  | .ok p => s.addAddress p.address.text p.length
  | .error e => .error (.address e)

/-- Applies a plan in order.  What was described before a failure stays. -/
def apply (plan : InterfacePlan) (s : InterfaceSpec) :
    Except ProvisionError Unit × InterfaceSpec :=
  match s.setMtu plan.mtu with
  | .error e => (.error e, s)
  | .ok s =>
      match plan.applyAddress s with
      | .error e => (.error e, s)
      | .ok s =>
          match plan.applyRoutes s with
          | .error e => (.error e, s)
          | .ok s => (.ok (), s)

end InterfacePlan

end TunnelControl
