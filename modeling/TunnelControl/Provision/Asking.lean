/-
  TunnelControl.Provision.Asking
  ──────────────────────────────
  **PROVISIONING, HOWEVER THE PLATFORM IS ASKED.**

  Asking the platform is the one thing that provisioning does outside.  Here it
  is an action of any kind: one that answers by itself, or one that remembers
  what it was asked and writes it down.  All else is as it is without it.

    • `Builder.establishBy`, `provisionBy` — provisioning by an action,
    • `Question`, `Behaviour` — platforms that remember, and what they are asked,
    • `Provisioned`, `Behaviour.provision` — provisioning with such platforms.
-/
import TunnelControl.Provision.Provisioner

namespace TunnelControl

section

variable {M : Type → Type} [Monad M]

/-- Establishes the interface; `ask` asks the platform of a service. -/
def Builder.establishBy (ask : Service → InterfaceSpec → M (Except String Unit)) (b : Builder)
    (p : Provisioner) (host : Host) : M (Except ProvisionError Handle × Provisioner × Host) :=
  match b.claim p with
  | .error e => pure (.error e, p, host)
  | .ok p => do
      let answer ← ask b.service b.spec
      return b.answered answer p host

/-- Describes an interface by a plan, establishes it and hands its descriptor
over; `ask` asks the platform of a service. -/
def provisionBy (ask : Service → InterfaceSpec → M (Except String Unit)) (plan : InterfacePlan)
    (p : Provisioner) (host : Host) : M (Except ProvisionError Nat × Provisioner × Host) :=
  match p.newBuilder with
  | .error e => pure (.error e, p, host)
  | .ok b =>
      match plan.apply b.spec with
      | (.error e, _) => pure (.error e, p, host)
      | (.ok (), spec) => do
          let established ← { b with spec := spec }.establishBy ask p host
          match established with
          | (.error e, p, host) => return (.error e, p, host)
          | (.ok handle, p, host) =>
              let (result, handle, host) := handle.detach host
              return (result, p, handle.drop host)

end

/-- A question to the platform of a service. -/
structure Question where
  serviceId : Nat
  spec : InterfaceSpec
deriving DecidableEq

/-- How platforms answer; that may depend on all that was asked before. -/
abbrev Behaviour := List Question → Service → InterfaceSpec → Except String Unit

/-- Asks, and writes the question down. -/
def Behaviour.ask (behaviour : Behaviour) (s : Service) (spec : InterfaceSpec) :
    StateM (List Question) (Except String Unit) :=
  fun past => (behaviour past s spec, past ++ [⟨s.id, spec⟩])

/-- Each platform answers by itself. -/
def Behaviour.own : Behaviour := fun _ s spec => s.platform.establish spec

/-- What provisioning leaves. -/
structure Provisioned where
  result : Except ProvisionError Nat
  provisioner : Provisioner
  host : Host
  /-- All that platforms were asked so far. -/
  asked : List Question

/-- Provisions while platforms behave in this way. -/
def Behaviour.provision (behaviour : Behaviour) (plan : InterfacePlan) (p : Provisioner)
    (host : Host) (past : List Question) : Provisioned :=
  let ((result, p, host), asked) := (provisionBy behaviour.ask plan p host).run past
  ⟨result, p, host, asked⟩

end TunnelControl
