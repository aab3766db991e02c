/-
  TunnelControl.Provision.Workshop
  ────────────────────────────────
  **MANY BUILDERS AT WORK AT ONCE.**

  A provisioner is shared.  Builders are made, filled in and established side
  by side, while attempts begin and end and services come and go.  Whatever
  takes a lock or leaves the process is a step of its own: looking up the
  service and reading the attempt when a builder is made; claiming, the
  platform's answer and giving back when it is established.

  Everything is a small step, so that any interleaving is a list of steps.

    • `Edit`            — one operation on a description,
    • `Job`, `Workshop` — an interface on its way, and all of them,
    • `Step`, `step`, `run` — the steps as data.
-/
import TunnelControl.Provision.Provisioner

namespace TunnelControl

/-! ## §1. Descriptions. -/

/-- An operation on the description of an interface. -/
inductive Edit where
  | mtu (mtu : UInt32)
  | address (address : String) (length : Nat)
  | route (address : String) (length : Nat)
  | dns (address : String)
  | plan (plan : InterfacePlan)

/-- What an accepted operation leaves; a refused one changes nothing. -/
def InterfaceSpec.orSelf (s : InterfaceSpec) :
    Except ProvisionError InterfaceSpec → Except ProvisionError Unit × InterfaceSpec
  | .ok s' => (.ok (), s')
  | .error e => (.error e, s)

/-- Carries out an operation. -/
def Edit.apply (e : Edit) (s : InterfaceSpec) : Except ProvisionError Unit × InterfaceSpec :=
  match e with
  | .mtu n => s.orSelf (s.setMtu n)
  | .address a n => s.orSelf (s.addAddress a n)
  | .route a n => s.orSelf (s.addRoute a n)
  | .dns a => s.orSelf (s.addDns a)
  | .plan p => p.apply s

/-! ## §2. Jobs. -/

/-- An interface on its way. -/
inductive Job where
  /-- The service is looked up, the attempt is not yet read. -/
  | opened (service : Service)
  | described (b : Builder)
  /-- The attempt is claimed and the platform has not answered. -/
  | asked (b : Builder)
  /-- The platform has refused, and the claim is not given back yet. -/
  | refused (b : Builder) (cause : String)
  /-- It is established and has a handle. -/
  | established (b : Builder) (handle : Handle)
  /-- It was established, and its handle was given up. -/
  | disposed (b : Builder)
  | failed (error : ProvisionError)

/-- A provisioner and all that is built with it. -/
structure Workshop where
  provisioner : Provisioner
  host : Host
  jobs : List Job

namespace Workshop

/-- Nothing was begun. -/
def initial : Workshop := ⟨.initial, .initial, []⟩

/-- Replaces a job. -/
def setJob (i : Nat) (j : Job) (w : Workshop) : Workshop := { w with jobs := w.jobs.set i j }

/-- A builder is asked for: the service is looked up. -/
def openJob (w : Workshop) : Workshop :=
  match w.provisioner.service with
  | none => w
  | some s => { w with jobs := w.jobs ++ [.opened s] }

/-- The attempt of the moment is read, and the builder is made. -/
def enter (i : Nat) (w : Workshop) : Workshop :=
  match w.jobs[i]? with
  | some (.opened s) => w.setJob i (.described ⟨s, w.provisioner.generation, .empty⟩)
  | _ => w

/-- The description is changed. -/
def edit (i : Nat) (e : Edit) (w : Workshop) : Workshop :=
  match w.jobs[i]? with
  | some (.described b) => w.setJob i (.described { b with spec := (e.apply b.spec).2 })
  | _ => w

/-- Establishing begins: the description is checked and the attempt claimed. -/
def claim (i : Nat) (w : Workshop) : Workshop :=
  match w.jobs[i]? with
  | some (.described b) =>
      match b.claim w.provisioner with
      | .ok p => { w with provisioner := p }.setJob i (.asked b)
      | .error e => w.setJob i (.failed e)
  | _ => w

/-- The platform answers. -/
def answer (i : Nat) (a : Except String Unit) (w : Workshop) : Workshop :=
  match w.jobs[i]? with
  | some (.asked b) =>
      match a with
      | .ok () =>
          let (d, host) := w.host.grant b.service.id b.spec
          { w with host := host }.setJob i (.established b ⟨some d⟩)
      | .error cause => w.setJob i (.refused b cause)
  | _ => w

/-- A refused job gives its claim back. -/
def giveBack (i : Nat) (w : Workshop) : Workshop :=
  match w.jobs[i]? with
  | some (.refused b cause) =>
      { w with provisioner := w.provisioner.release b.generation }.setJob i
        (.failed (.denied cause))
  | _ => w

/-- The descriptor is handed over, if that did not happen before. -/
def detachHandle (i : Nat) (w : Workshop) : Workshop :=
  match w.jobs[i]? with
  | some (.established b handle) =>
      let (_, handle, host) := handle.detach w.host
      { w with host := host }.setJob i (.established b handle)
  | _ => w

/-- The handle is given up. -/
def dropHandle (i : Nat) (w : Workshop) : Workshop :=
  match w.jobs[i]? with
  | some (.established b handle) => { w with host := handle.drop w.host }.setJob i (.disposed b)
  | _ => w

/-! ## §3. Steps. -/

/-- One step of a run. -/
inductive Step where
  | attach (platform : Platform)
  /-- The service of an id is taken out, if it is still there. -/
  | swapOut (id : Nat)
  | beginAttempt
  | endAttempt
  | openJob
  | enter (job : Nat)
  | edit (job : Nat) (e : Edit)
  | claim (job : Nat)
  | answer (job : Nat) (a : Except String Unit)
  | giveBack (job : Nat)
  | detachHandle (job : Nat)
  | dropHandle (job : Nat)

/-- Takes one step. -/
def step (s : Step) (w : Workshop) : Workshop :=
  match s with
  | .attach platform => { w with provisioner := (w.provisioner.attach platform).2 }
  | .swapOut id => { w with provisioner := (w.provisioner.swapOut id).2 }
  | .beginAttempt => { w with provisioner := w.provisioner.beginAttempt }
  | .endAttempt => { w with provisioner := w.provisioner.endAttempt }
  | .openJob => w.openJob
  | .enter i => w.enter i
  | .edit i e => w.edit i e
  | .claim i => w.claim i
  | .answer i a => w.answer i a
  | .giveBack i => w.giveBack i
  | .detachHandle i => w.detachHandle i
  | .dropHandle i => w.dropHandle i

/-- Takes steps one after the other. -/
def run (steps : List Step) (w : Workshop) : Workshop :=
  steps.foldl (fun w s => w.step s) w

end Workshop

end TunnelControl
