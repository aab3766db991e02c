/-
  TunnelControl.Provision.Reception
  ─────────────────────────────────
  **SERVICES COME AND GO.**

  Hosts attach services, and detach them by id.  A call that detaches looks at
  the slot first and exchanges it afterwards; other calls, and all the work
  with builders and attempts, may come in between.

    • `Provisioner.exchange`  — the exchange, with what was seen before,
    • `Detaching`             — a call on its way,
    • `Work`                  — a step of a workshop that leaves the slot alone,
    • `Reception`, `Step`, `step`, `run` — a workshop and the calls to it.
-/
import TunnelControl.Provision.Workshop

namespace TunnelControl

/-- Empties the slot if it still holds the service that was seen, and tells
what it held.  A service is attached once and under an id of its own, so its id
stands for it. -/
def Provisioner.exchange (seen : Service) (p : Provisioner) : Option Service × Provisioner :=
  if p.serviceId = some seen.id then (p.service, { p with service := none }) else (p.service, p)

/-- A call that detaches the service of an id. -/
inductive Detaching where
  | called (id : Nat)
  /-- The service of its id was seen in the slot. -/
  | loaded (seen : Service)
  | answered (id : Nat) (detached : Bool)

/-- The id that a call is about. -/
def Detaching.id : Detaching → Nat
  | .called id => id
  | .loaded seen => seen.id
  | .answered id _ => id

/-- Does the step leave the slot alone? -/
def Workshop.Step.isWork : Workshop.Step → Bool
  | .attach _ => false
  | .swapOut _ => false
  | _ => true

/-- A step of attempts or builders. -/
structure Work where
  step : Workshop.Step
  /-- It leaves the slot alone. -/
  isWork : step.isWork = true := by rfl

/-- A workshop, and the calls that detach services from it. -/
structure Reception where
  workshop : Workshop
  calls : List Detaching

namespace Reception

/-- Nothing was attached and nobody has called. -/
def initial : Reception := ⟨.initial, []⟩

/-- The slot of the service. -/
def slot (r : Reception) : Option Service := r.workshop.provisioner.service

/-- What is left when the provisioner is another one. -/
def withProvisioner (p : Provisioner) (r : Reception) : Reception :=
  { r with workshop := { r.workshop with provisioner := p } }

/-- Replaces a call. -/
def setCall (i : Nat) (c : Detaching) (r : Reception) : Reception :=
  { r with calls := r.calls.set i c }

/-- A call looks whether the service of its id is attached; if not, it is
answered. -/
def look (i : Nat) (r : Reception) : Reception :=
  match r.calls[i]? with
  | some (.called id) =>
      match r.slot.filter (·.id = id) with
      | some seen => r.setCall i (.loaded seen)
      | none => r.setCall i (.answered id false)
  | _ => r

/-- A call exchanges the slot, and its answer tells whether that held the
service of its id until now. -/
def exchange (i : Nat) (r : Reception) : Reception :=
  match r.calls[i]? with
  | some (.loaded seen) =>
      let (before, p) := r.workshop.provisioner.exchange seen
      (r.withProvisioner p).setCall i (.answered seen.id (before.any (·.id = seen.id)))
  | _ => r

/-- One step of a run. -/
inductive Step where
  | attach (platform : Platform)
  | call (id : Nat)
  | look (call : Nat)
  | exchange (call : Nat)
  | work (w : Work)

/-- Takes one step. -/
def step (s : Step) (r : Reception) : Reception :=
  match s with
  | .attach platform => r.withProvisioner (r.workshop.provisioner.attach platform).2
  | .call id => { r with calls := r.calls ++ [.called id] }
  | .look i => r.look i
  | .exchange i => r.exchange i
  | .work w => { r with workshop := r.workshop.step w.step }

/-- Takes steps one after the other. -/
def run (steps : List Step) (r : Reception) : Reception := steps.foldl (fun r s => r.step s) r

end Reception

end TunnelControl
