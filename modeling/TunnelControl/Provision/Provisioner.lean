/-
  TunnelControl.Provision.Provisioner
  ───────────────────────────────────
  **ONE INTERFACE FOR EACH CONNECT ATTEMPT.**

  A host service is attached and detached by its id.  An engine describes an
  interface with a builder, which belongs to the attempt of the moment it was
  made.  To establish it the builder claims its attempt, the platform is
  asked, and a refusal gives the claim back; the three are separate steps,
  because other work may come between them.

    • `Provisioner` — the attached service, the attempt and its claim,
    • `Builder`, `Provisioner.claim`, `Provisioner.release`,
    • `Host` — the descriptors that platforms have granted,
    • `Builder.establish`, `Handle.detach`, `Handle.drop`, `provisionAndDetach`.
-/
import TunnelControl.Provision.Plan

namespace TunnelControl

/-- The side of the operating system, as a host service sees it. -/
structure Platform where
  name : String
  /-- Creates an interface, or says why not. -/
  establish : InterfaceSpec → Except String Unit
  /-- Keeps a socket out of the tunnel. -/
  protect : Int → Bool

/-- An attached host service. -/
structure Service where
  id : Nat
  platform : Platform

/-- The shared state of provisioning. -/
structure Provisioner where
  service : Option Service
  /-- The number of ids that were given out. -/
  issued : Nat
  /-- The current attempt, by its number.  The numbers have no bound here; those
  of a counter of 64 bits would come again after 2⁶⁴ attempts. -/
  generation : Nat
  /-- An interface of the current attempt is established or asked for. -/
  claimed : Bool

namespace Provisioner

/-- Nothing is attached and nothing was attempted. -/
def initial : Provisioner := ⟨none, 0, 0, false⟩

/-! ## §1. The host service. -/

/-- Attaches a service under a new id; it replaces the one before. -/
def attach (platform : Platform) (p : Provisioner) : Nat × Provisioner :=
  (p.issued, { p with service := some ⟨p.issued, platform⟩, issued := p.issued + 1 })

/-- The id of the attached service. -/
def serviceId (p : Provisioner) : Option Nat := p.service.map (·.id)

/-- Empties the slot if it still holds the service of this id; tells whether
it did. -/
def swapOut (id : Nat) (p : Provisioner) : Bool × Provisioner :=
  if p.serviceId = some id then (true, { p with service := none }) else (false, p)

/-- Detaches the service of an id: a look whether it is attached, and then
the exchange. -/
def detach (id : Nat) (p : Provisioner) : Bool × Provisioner :=
  if p.serviceId = some id then p.swapOut id else (false, p)

/-- Keeps a socket out of the tunnel; without a service that fails. -/
def protect (descriptor : Int) (p : Provisioner) : Bool :=
  match p.service with
  | some s => s.platform.protect descriptor
  | none => false

/-! ## §2. Attempts. -/

/-- A new attempt begins; what belongs to earlier ones is stale. -/
def beginAttempt (p : Provisioner) : Provisioner :=
  { p with generation := p.generation + 1, claimed := false }

/-- The attempt has ended; what belongs to it is stale. -/
def endAttempt (p : Provisioner) : Provisioner := p.beginAttempt

/-- Claims an attempt for one interface. -/
def claim (generation : Nat) (p : Provisioner) : Except ProvisionError Provisioner :=
  if p.generation ≠ generation then .error .staleAttempt
  else if p.claimed then .error .alreadyEstablished
  else .ok { p with claimed := true }

/-- Gives a claim back, if its attempt is still the current one. -/
def release (generation : Nat) (p : Provisioner) : Provisioner :=
  if p.generation = generation then { p with claimed := false } else p

/-- The debug text, with `id` in place of the service id. -/
def debugText (p : Provisioner) (id : Nat → String) : String :=
  let shown := match p.serviceId with
    | none => "None"
    | some n => "Some(" ++ id n ++ ")"
  Text.debugRecord "TunnelProvisioner" [("service_id", shown)] true

end Provisioner

/-! ## §3. Builders. -/

/-- An interface that is being described. -/
structure Builder where
  service : Service
  generation : Nat
  spec : InterfaceSpec

/-- Begins to describe an interface for the current attempt. -/
def Provisioner.newBuilder (p : Provisioner) : Except ProvisionError Builder :=
  match p.service with
  | none => .error .noService
  | some s => .ok ⟨s, p.generation, .empty⟩

/-- The debug text of a builder. -/
def Builder.debugText (b : Builder) : String :=
  Text.debugRecord "TunnelBuilder"
    [("generation", Text.ofNat b.generation), ("spec", b.spec.debugText)] true

/-! ## §4. Descriptors. -/

/-- What has become of a descriptor. -/
inductive Condition where
  | owned
  | handedOver
  | closed
deriving DecidableEq

/-- A descriptor that a platform has granted. -/
structure Grant where
  serviceId : Nat
  spec : InterfaceSpec
  condition : Condition
deriving DecidableEq

/-- The operating system, as far as descriptors go: a descriptor is a
position in the list of all that were granted. -/
structure Host where
  grants : List Grant
deriving DecidableEq

namespace Host

/-- No descriptor was granted. -/
def initial : Host := ⟨[]⟩

/-- Grants the next descriptor. -/
def grant (serviceId : Nat) (spec : InterfaceSpec) (h : Host) : Nat × Host :=
  (h.grants.length, ⟨h.grants ++ [⟨serviceId, spec, .owned⟩]⟩)

/-- Records what becomes of a descriptor. -/
def settle (descriptor : Nat) (condition : Condition) (h : Host) : Host :=
  ⟨h.grants.modify descriptor fun g => { g with condition := condition }⟩

/-- The interfaces that a service has established, in order. -/
def establishedBy (serviceId : Nat) (h : Host) : List InterfaceSpec :=
  (h.grants.filter (·.serviceId = serviceId)).map (·.spec)

end Host

/-- The owner of a descriptor, until it is handed over. -/
structure Handle where
  descriptor : Option Nat
deriving DecidableEq

namespace Handle

/-- The descriptor was handed over. -/
def isDetached (h : Handle) : Bool := h.descriptor.isNone

/-- Hands the descriptor over; that works once. -/
def detach (h : Handle) (host : Host) : Except ProvisionError Nat × Handle × Host :=
  match h.descriptor with
  | none => (.error .alreadyDetached, h, host)
  | some d => (.ok d, ⟨none⟩, host.settle d .handedOver)

/-- Gives the handle up; a descriptor that it still owns is closed. -/
def drop (h : Handle) (host : Host) : Host :=
  match h.descriptor with
  | none => host
  | some d => host.settle d .closed

end Handle

/-! ## §5. Establishing. -/

namespace Builder

/-- The first step: the description is checked and the attempt claimed. -/
def claim (b : Builder) (p : Provisioner) : Except ProvisionError Provisioner := do
  b.spec.checkUsable
  p.claim b.generation

/-- The last step: the platform's answer. -/
def answered (b : Builder) (answer : Except String Unit) (p : Provisioner) (host : Host) :
    Except ProvisionError Handle × Provisioner × Host :=
  match answer with
  | .ok () =>
      let (d, host) := host.grant b.service.id b.spec
      (.ok ⟨some d⟩, p, host)
  | .error cause => (.error (.denied cause), p.release b.generation, host)

/-- Establishes the interface, with nothing else in between. -/
def establish (b : Builder) (p : Provisioner) (host : Host) :
    Except ProvisionError Handle × Provisioner × Host :=
  match b.claim p with
  | .error e => (.error e, p, host)
  | .ok p => b.answered (b.service.platform.establish b.spec) p host

end Builder

/-- Describes an interface by a plan, establishes it and hands its descriptor
over, all at once. -/
def provisionAndDetach (plan : InterfacePlan) (p : Provisioner) (host : Host) :
    Except ProvisionError Nat × Provisioner × Host :=
  match p.newBuilder with
  | .error e => (.error e, p, host)
  | .ok b =>
      match plan.apply b.spec with
      | (.error e, _) => (.error e, p, host)
      | (.ok (), spec) =>
          match { b with spec := spec }.establish p host with
          | (.error e, p, host) => (.error e, p, host)
          | (.ok handle, p, host) =>
              let (result, handle, host) := handle.detach host
              (result, p, handle.drop host)

end TunnelControl
