/-
  TunnelControl.Session.Tunnel
  ────────────────────────────
  **THE SESSION AND THE WORKSHOP TOGETHER.**

  Interfaces are built with the provisioner of a session.  Hosts attach and
  detach services, engines make builders and establish interfaces, all beside
  the session and at any moment; attempts begin and end in the session alone,
  when it handles a message.

    • `Building`                  — a step of a workshop that leaves attempts alone,
    • `Tunnel`                    — a session, its host and its jobs,
    • `Tunnel.step`, `Tunnel.run` — the steps of both.
-/
import TunnelControl.Provision.Workshop
import TunnelControl.Session.Coordinator

namespace TunnelControl

/-- Does the step leave attempts alone? -/
def Workshop.Step.isBuilding : Workshop.Step → Bool
  | .beginAttempt => false
  | .endAttempt => false
  | _ => true

/-- A step of the hosts and engines that build interfaces. -/
structure Building where
  step : Workshop.Step
  /-- It neither begins nor ends an attempt. -/
  isBuilding : step.isBuilding = true := by rfl

/-- A session, and all that is built with its provisioner. -/
structure Tunnel where
  session : Coordinator
  host : Host
  jobs : List Job

namespace Tunnel

/-- A session that begins; nothing is built yet. -/
def start (interval : Nat) : Tunnel := ⟨Coordinator.start interval, .initial, []⟩

/-- The workshop, with the session's provisioner. -/
def workshop (t : Tunnel) : Workshop := ⟨t.session.provisioner, t.host, t.jobs⟩

/-- What is left when work was done in the workshop. -/
def withWorkshop (w : Workshop) (t : Tunnel) : Tunnel :=
  { session := { t.session with provisioner := w.provisioner }, host := w.host, jobs := w.jobs }

/-- One step of a run. -/
inductive Step where
  | session (a : Coordinator.Action)
  | building (b : Building)

/-- Takes one step. -/
def step (s : Step) (t : Tunnel) : Tunnel :=
  match s with
  | .session a => { t with session := t.session.act a }
  | .building b => t.withWorkshop (t.workshop.step b.step)

/-- Takes steps one after the other. -/
def run (steps : List Step) (t : Tunnel) : Tunnel := steps.foldl (fun t s => t.step s) t

end Tunnel

end TunnelControl
