/-
  TunnelControl.Proofs.Tunnel.Ownership
  ─────────────────────────────────────
  **EVERY DESCRIPTOR IS ACCOUNTED FOR.**

  Handles outlive the attempts that they were established in.  Whatever the
  session does, a descriptor that was granted belongs to one handle until that
  is detached or given up; then it has been handed over once, or closed once,
  and never both.

    • `events`, `run_account`     — the account along a run,
    • `held_run`, `released_run`  — handles along a run,
    • `every_descriptor_is_accounted_for`.
-/
import TunnelControl.Proofs.Provision.Ownership
import TunnelControl.Proofs.Tunnel.Runs

namespace TunnelControl.Tunnel

open Workshop (Event)

/-! ## §1. Runs. -/

/-- The descriptor that the handle of a job owns. -/
def heldBy (i : Nat) (t : Tunnel) : Option Nat := t.workshop.heldBy i

/-- What a step does to descriptors; the session does nothing to them. -/
def eventBy (s : Step) (t : Tunnel) : Option Event :=
  match s with
  | .session _ => none
  | .building b => t.workshop.eventBy b.step

/-- What a run does to descriptors, in order. -/
def events : List Step → Tunnel → List Event
  | [], _ => []
  | s :: steps, t => (t.eventBy s).toList ++ events steps (t.step s)

theorem step_account {d : Nat} {t : Tunnel} {past : List Event}
    (h : Workshop.Account d t.workshop past) (s : Step) :
    Workshop.Account d (t.step s).workshop (past ++ (t.eventBy s).toList) := by
  cases s with
  | building b => exact h.step b.step
  | session a =>
      show Workshop.Account d _ (past ++ [])
      rw [List.append_nil]
      exact h.other rfl (fun _ => Iff.rfl) fun _ => rfl

/-- **The account of a descriptor is in order after every run.** -/
theorem run_account {d : Nat} {t : Tunnel} {past : List Event}
    (h : Workshop.Account d t.workshop past) (steps : List Step) :
    Workshop.Account d (t.run steps).workshop (past ++ t.events steps) := by
  induction steps generalizing t past with
  | nil => simpa [events] using h
  | cons s steps ih =>
      rw [run_cons, events, ← List.append_assoc]
      exact ih (step_account h s)

/-- A detach of the handle of a job is tried. -/
def detaching (i : Nat) : Step := .building ⟨.detachHandle i, rfl⟩

/-- The handle of a job is given up. -/
def dropping (i : Nat) : Step := .building ⟨.dropHandle i, rfl⟩

theorem held_step {i d : Nat} {s : Step} {t : Tunnel} (owns : t.heldBy i = some d)
    (kept : s ≠ detaching i) (there : s ≠ dropping i) : (t.step s).heldBy i = some d := by
  cases s with
  | session a => exact owns
  | building b =>
      refine Workshop.heldBy_step owns (fun detaches => kept ?_) fun drops => there ?_
      · cases b
        cases detaches
        rfl
      · cases b
        cases drops
        rfl

/-- **A handle owns its descriptor throughout**, unless it is detached or given
up. -/
theorem held_run {i d : Nat} {steps : List Step} {t : Tunnel} (owns : t.heldBy i = some d)
    (kept : detaching i ∉ steps) (there : dropping i ∉ steps) : (t.run steps).heldBy i = some d := by
  induction steps generalizing t with
  | nil => exact owns
  | cons s steps ih =>
      refine ih (held_step owns ?_ ?_) (fun later => kept (.tail s later))
        fun later => there (.tail s later)
      · rintro rfl
        exact kept (.head steps)
      · rintro rfl
        exact there (.head steps)

/-- A handle that was detached owns nothing after any further run. -/
theorem released_run {i : Nat} {b : Builder} {handle : Handle} {t : Tunnel}
    (job : t.jobs[i]? = some (.established b handle)) (more : List Step) :
    ((t.step (detaching i)).run more).workshop.Released i :=
  run_workshop (fun h step => h.change step) (Workshop.detachHandle_released job) more

/-! ## §2. The main result. -/

/-- What has become of a descriptor, and what was done to it on the way. -/
structure Accounted (d : Nat) (condition : Condition) (t : Tunnel) (past : List Event) : Prop where
  /-- It was granted once. -/
  granted : past.count ⟨d, .owned⟩ = 1
  /-- It is owned by one handle, and was neither handed over nor closed; -/
  owned : condition = .owned →
    (∃ i, t.heldBy i = some d ∧ ∀ k, t.heldBy k = some d → k = i)
    ∧ past.count ⟨d, .handedOver⟩ = 0 ∧ past.count ⟨d, .closed⟩ = 0
  /-- or a detach has handed it over, one alone, and it was never closed; -/
  handedOver : condition = .handedOver → (∀ i, t.heldBy i ≠ some d)
    ∧ past.count ⟨d, .handedOver⟩ = 1 ∧ past.count ⟨d, .closed⟩ = 0
  /-- or the drop of a handle has closed it, and it was never handed over. -/
  closed : condition = .closed → (∀ i, t.heldBy i ≠ some d)
    ∧ past.count ⟨d, .handedOver⟩ = 0 ∧ past.count ⟨d, .closed⟩ = 1

theorem accounted {d : Nat} {g : Grant} {t : Tunnel} {past : List Event}
    (h : Workshop.Account d t.workshop past) (grant : t.host.grants[d]? = some g) :
    Accounted d g.condition t past := by
  have condition : t.workshop.host.condition? d = some g.condition := by
    show (t.host.grants[d]?).map (·.condition) = _
    rw [grant, Option.map_some]
  have entered := h.entered
  have owner := h.owner
  rw [condition] at entered owner
  have nobody : g.condition ≠ .owned → ∀ i, t.heldBy i ≠ some d :=
    fun other i owns => other (Option.some.inj (owner.mpr ⟨i, owns⟩))
  refine ⟨by simp [entered], fun is => ?_, fun is => ?_, fun is => ?_⟩
  · obtain ⟨i, owns⟩ := owner.mp (congrArg some is)
    exact ⟨⟨i, owns, fun k own => h.unique k i own owns⟩, by simp [entered, is],
      by simp [entered, is]⟩
  · exact ⟨nobody (by simp [is]), by simp [entered, is], by simp [entered, is]⟩
  · exact ⟨nobody (by simp [is]), by simp [entered, is], by simp [entered, is]⟩

/-- The descriptors of a run, told by what its steps did to them. -/
structure AccountsFor (steps : List Step) (start : Tunnel) : Prop where
  /-- Every descriptor that was granted is in one condition, and that is what
  was done to it. -/
  granted : ∀ (d : Nat) (g : Grant), (start.run steps).host.grants[d]? = some g →
    Accounted d g.condition (start.run steps) (start.events steps)
  /-- No handle owns anything else, and nothing was done to anything else. -/
  others : ∀ d, (start.run steps).host.grants.length ≤ d →
    (∀ i, (start.run steps).heldBy i ≠ some d) ∧ ∀ c, ⟨d, c⟩ ∉ start.events steps
  /-- The detach of a handle hands over the descriptor that it owns; -/
  detach : ∀ (i d : Nat), (start.run steps).heldBy i = some d →
    (start.run steps).eventBy (detaching i) = some ⟨d, .handedOver⟩
  /-- after that every detach of it fails, and changes nothing. -/
  second : ∀ (i : Nat) (b : Builder) (handle : Handle),
    (start.run steps).jobs[i]? = some (.established b handle) →
      ∀ (more : List Step) (b' : Builder) (handle' : Handle),
        (((start.run steps).step (detaching i)).run more).jobs[i]? = some (.established b' handle') →
          ∀ host, handle'.detach host = (.error .alreadyDetached, handle', host)
  /-- The session touches neither handles nor descriptors. -/
  session : ∀ a, ((start.run steps).step (.session a)).jobs = (start.run steps).jobs
    ∧ ((start.run steps).step (.session a)).host = (start.run steps).host
  /-- Whatever happens, a handle that is neither detached nor given up owns its
  descriptor, which can still be handed over. -/
  held : ∀ (i d : Nat), (start.run steps).heldBy i = some d →
    ∀ more, detaching i ∉ more → dropping i ∉ more →
      ((start.run steps).run more).heldBy i = some d
        ∧ ((start.run steps).run more).host.condition? d = some .owned

theorem eventBy_detaching {i d : Nat} {t : Tunnel} (owns : t.heldBy i = some d) :
    t.eventBy (detaching i) = some ⟨d, .handedOver⟩ := by
  obtain ⟨j, job, own⟩ := Option.bind_eq_some_iff.mp owns
  cases j with
  | established b handle =>
      show t.workshop.eventBy (.detachHandle i) = _
      unfold Workshop.eventBy
      simp only [job, handle.detach_result]
      rw [show handle.descriptor = some d from own]
      rfl
  | _ => cases own

/-- **Every descriptor of a run is accounted for.** -/
theorem every_descriptor_is_accounted_for (interval : Nat) (steps : List Step) :
    AccountsFor steps (start interval) := by
  have account (d : Nat) (steps : List Step) :
      Workshop.Account d ((start interval).run steps).workshop ((start interval).events steps) :=
    run_account (t := start interval) (Workshop.account_initial d) steps
  refine ⟨?_, ?_, fun i d => eventBy_detaching, ?_, fun a => ⟨rfl, rfl⟩, ?_⟩
  · intro d g grant
    exact accounted (account d steps) grant
  · intro d out
    refine ⟨fun i owns => ?_, fun c written => ?_⟩
    · exact absurd ((account d steps).lt_of_heldBy owns) (Nat.not_lt.mpr out)
    · exact absurd ((account d steps).lt_of_mem written) (Nat.not_lt.mpr out)
  · intro i b handle job more b' handle' job' host
    obtain ⟨j, after, released⟩ := released_run job more
    have same : some j = some (Job.established b' handle') := after.symm.trans job'
    cases same
    exact Handle.detach_of_none released host
  · intro i d owns more kept there
    have still := held_run owns kept there
    refine ⟨still, ?_⟩
    have later := account d (steps ++ more)
    rw [run_append] at later
    exact later.owner.mpr ⟨i, still⟩

end TunnelControl.Tunnel
