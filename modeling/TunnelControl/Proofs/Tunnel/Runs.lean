/-
  TunnelControl.Proofs.Tunnel.Runs
  ────────────────────────────────
  **RUNS OF A SESSION WITH ALL THAT IS BUILT.**

  A session changes the workshop only by its turns, and work in the workshop
  takes no turn.  So whatever changes of a workshop keep holds in every run,
  and the number of the current attempt is the number of turns that were taken.

    • `step_change`, `run_workshop`     — runs, seen by the workshop,
    • `turns`, `turns_append`           — the turns that a run takes,
    • `run_generation`, `turns_eq_of_generation` — attempts count turns.
-/
import TunnelControl.Proofs.Provision.Jobs
import TunnelControl.Proofs.Session.Turns

namespace TunnelControl.Tunnel

/-! ## §1. Runs. -/

@[simp] theorem run_nil (t : Tunnel) : t.run [] = t := rfl

@[simp] theorem run_cons (s : Step) (steps : List Step) (t : Tunnel) :
    t.run (s :: steps) = (t.step s).run steps := rfl

theorem run_append (before after : List Step) (t : Tunnel) :
    t.run (before ++ after) = (t.run before).run after := by
  simp only [run, List.foldl_append]

/-- The turn that a step takes. -/
def turnBy (s : Step) (t : Tunnel) : Option Turn :=
  match s with
  | .session a => t.session.turnBy a
  | .building _ => none

/-- The turns that a run takes, in order. -/
def turns : List Step → Tunnel → List Turn
  | [], _ => []
  | s :: steps, t => (t.turnBy s).toList ++ turns steps (t.step s)

theorem turns_append (before after : List Step) (t : Tunnel) :
    t.turns (before ++ after) = t.turns before ++ (t.run before).turns after := by
  induction before generalizing t with
  | nil => rfl
  | cons s before ih =>
      rw [List.cons_append, turns, ih, turns, List.append_assoc]
      rfl

/-! ## §2. The workshop in a run. -/

/-- **Every step changes the workshop as a step of its own would**: a session
begins an attempt, or leaves the workshop alone. -/
theorem step_change (s : Step) (t : Tunnel) : t.workshop.Change (t.step s).workshop := by
  cases s with
  | building b => exact Workshop.step_change b.step t.workshop
  | session a =>
      show t.workshop.Change { t.workshop with provisioner := (t.session.act a).provisioner }
      rw [Coordinator.act_provisioner]
      cases t.session.turnBy a with
      | none => exact .refl t.workshop
      | some turn => exact .attempt

/-- What every change of a workshop keeps holds after every run. -/
theorem run_workshop {P : Workshop → Prop} (keep : ∀ {w w'}, P w → Workshop.Change w w' → P w')
    {t : Tunnel} (h : P t.workshop) (steps : List Step) : P (t.run steps).workshop := by
  induction steps generalizing t with
  | nil => exact h
  | cons s steps ih => exact ih (keep h (step_change s t))

/-- In a run from the beginning, the flag of the attempt and the stakes of all
jobs agree. -/
theorem run_ledger (interval : Nat) (steps : List Step) :
    Workshop.Ledger ((start interval).run steps).workshop :=
  run_workshop (fun h step => h.booking step.booking) Workshop.ledger_initial steps

theorem step_generation (s : Step) (t : Tunnel) :
    (t.step s).session.provisioner.generation
      = t.session.provisioner.generation + (t.turnBy s).toList.length := by
  cases s with
  | building b => exact Workshop.step_generation b.isBuilding t.workshop
  | session a =>
      show (t.session.act a).provisioner.generation
        = t.session.provisioner.generation + (t.session.turnBy a).toList.length
      rw [Coordinator.act_provisioner]
      cases t.session.turnBy a with
      | none => rfl
      | some turn => rfl

/-- **The number of the attempt counts the turns.** -/
theorem run_generation (steps : List Step) (t : Tunnel) :
    (t.run steps).session.provisioner.generation
      = t.session.provisioner.generation + (t.turns steps).length := by
  induction steps generalizing t with
  | nil => rfl
  | cons s steps ih =>
      rw [run_cons, ih, step_generation, turns, List.length_append, Nat.add_assoc]

/-- A run that ends in the attempt in which it began takes no turn. -/
theorem turns_eq_nil_of_generation {steps : List Step} {t : Tunnel}
    (same : (t.run steps).session.provisioner.generation = t.session.provisioner.generation) :
    t.turns steps = [] := by
  rw [run_generation] at same
  exact List.eq_nil_of_length_eq_zero (by omega)

end TunnelControl.Tunnel
