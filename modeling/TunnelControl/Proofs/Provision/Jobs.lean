/-
  TunnelControl.Proofs.Provision.Jobs
  ───────────────────────────────────
  **THE WAY OF ONE JOB.**

  A workshop changes as a whole; a single job sees little of it.  From one step
  to the next it stays as it is, comes further by itself, claims the attempt or
  gives its claim back, and it is never taken away.

    • `Job.Fate`, `Change.job_of`, `Change.job` — one step, seen by one job,
    • `Change.made_of`, `Change.claimed_of` — where builders and stakes come from,
    • `BuildersLe`, `BelongsTo`      — the attempt that a builder belongs to,
    • `Stale`, `Stale.change`        — what is stale is never asked for,
    • `claim_of_stale`, `claim_of_current` — what a claim is answered,
    • `step_provisioner`, `step_generation`, `step_slot` — what steps leave alone.
-/
import TunnelControl.Provision.Reception
import TunnelControl.Session.Tunnel
import TunnelControl.Proofs.Provision.Claims

namespace TunnelControl

/-! ## §1. Fates. -/

/-- What a step makes of a job, when `generation` is the attempt before it. -/
inductive Job.Fate (generation : Nat) : Job → Job → Prop where
  | kept (j : Job) : Fate generation j j
  /-- It comes further by itself. -/
  | turned {j j' : Job} {host host' : Host} (turn : j.Turn generation host j' host') :
      Fate generation j j'
  /-- It claims the attempt. -/
  | claimed (b : Builder) (current : b.generation = generation) :
      Fate generation (.described b) (.asked b)
  /-- It gives its claim back. -/
  | gaveBack (b : Builder) (cause : String) :
      Fate generation (.refused b cause) (.failed (.denied cause))

/-- The job has a builder of this attempt, or has failed. -/
def Job.BelongsTo (generation : Nat) : Job → Prop
  | .opened _ => False
  | .failed _ => True
  | .described b => b.generation = generation
  | .asked b => b.generation = generation
  | .refused b _ => b.generation = generation
  | .established b _ => b.generation = generation
  | .disposed b => b.generation = generation

/-- A builder belongs to the same attempt as long as it is there. -/
theorem Job.Fate.belongsTo {generation g : Nat} {j j' : Job} (fate : j.Fate generation j')
    (h : j.BelongsTo g) : j'.BelongsTo g := by
  cases fate with
  | kept => exact h
  | claimed b current => exact h
  | gaveBack b cause => exact trivial
  | turned turn =>
      cases turn with
      | made => exact h.elim
      | edited => exact h
      | declined => exact trivial
      | granted => exact h
      | refused => exact h
      | detached => exact h
      | disposed => exact h

namespace Workshop

theorem fate_setJob {w : Workshop} {i k : Nat} {j j' old : Job} {generation : Nat}
    (job : w.jobs[i]? = some old) (fate : old.Fate generation j') (at_k : w.jobs[k]? = some j) :
    ∃ j'', (w.setJob i j').jobs[k]? = some j'' ∧ j.Fate generation j'' := by
  rw [getElem?_setJob job]
  by_cases same : k = i
  · rw [same, job] at at_k
    injection at_k with at_k
    exact ⟨j', if_pos same, at_k ▸ fate⟩
  · exact ⟨j, by rw [if_neg same, at_k], .kept j⟩

/-- **Jobs are not taken away**, and each meets one of the fates. -/
theorem Change.job_of {w w' : Workshop} (step : Change w w') {k : Nat} {j : Job}
    (job : w.jobs[k]? = some j) :
    ∃ j', w'.jobs[k]? = some j' ∧ j.Fate w.provisioner.generation j' := by
  cases step with
  | served => exact ⟨j, job, .kept j⟩
  | attempt => exact ⟨j, job, .kept j⟩
  | opened s =>
      have hk : k < w.jobs.length := (List.getElem?_eq_some_iff.mp job).1
      refine ⟨j, ?_, .kept j⟩
      show (w.jobs ++ [Job.opened s])[k]? = some j
      rw [List.getElem?_append_left hk, job]
  | turned i old new host at_i turn =>
      exact fate_setJob (w := { w with host := host }) at_i (.turned turn) job
  | claimed i b at_i usable current free =>
      exact fate_setJob (w := { w with provisioner := _ }) at_i (.claimed b current) job
  | gaveBack i b cause at_i =>
      exact fate_setJob (w := { w with provisioner := _ }) at_i (.gaveBack b cause) job

/-- A job after a step is one that begins, or was there before. -/
theorem Change.job {w w' : Workshop} (step : Change w w') {k : Nat} {j' : Job}
    (job : w'.jobs[k]? = some j') :
    (∃ s, j' = .opened s)
      ∨ ∃ j, w.jobs[k]? = some j ∧ j.Fate w.provisioner.generation j' := by
  cases before : w.jobs[k]? with
  | some j =>
      obtain ⟨j'', after, fate⟩ := step.job_of before
      rw [job] at after
      injection after with after
      exact .inr ⟨j, rfl, after ▸ fate⟩
  | none =>
      -- only a step that begins a job makes the list longer
      have out := List.getElem?_eq_none_iff.mp before
      cases step with
      | opened s =>
          have job : (w.jobs ++ [Job.opened s])[k]? = some j' := job
          rw [getElem?_concat] at job
          split at job
          next =>
            injection job with job
            exact .inl ⟨s, job.symm⟩
          next => cases before.symm.trans job
      | served => exact absurd job (by simp [before])
      | attempt => exact absurd job (by simp [before])
      | turned => exact absurd job (by simp [setJob, out])
      | claimed => exact absurd job (by simp [setJob, out])
      | gaveBack => exact absurd job (by simp [setJob, out])

/-- Attempts are counted upwards. -/
theorem Change.generation_le {w w' : Workshop} (step : Change w w') :
    w.provisioner.generation ≤ w'.provisioner.generation := by
  cases step with
  | attempt => exact Nat.le_succ _
  | gaveBack i b cause =>
      exact Nat.le_of_eq (release_generation b.generation w.provisioner).symm
  | served => exact Nat.le_refl _
  | opened => exact Nat.le_refl _
  | turned => exact Nat.le_refl _
  | claimed => exact Nat.le_refl _

/-! ## §2. Builders. -/

/-- A builder comes from one of the same attempt, or is made in the attempt
of the moment. -/
theorem Change.made_of {w w' : Workshop} (step : Change w w') {k : Nat} {b' : Builder}
    (job : w'.jobs[k]? = some (.described b')) :
    (∃ b, w.jobs[k]? = some (.described b) ∧ b.generation = b'.generation)
      ∨ (∃ s, w.jobs[k]? = some (.opened s)) ∧ b'.generation = w.provisioner.generation := by
  rcases step.job job with ⟨s, e⟩ | ⟨j, before, fate⟩
  · cases e
  · cases fate with
    | kept => exact .inl ⟨b', before, rfl⟩
    | turned turn =>
        -- the attempt is read once, and an edit leaves it
        cases turn with
        | made s host => exact .inr ⟨⟨s, before⟩, rfl⟩
        | edited b e host => exact .inl ⟨b, before, rfl⟩

/-- A stake was held before, or is taken by a builder of the attempt of the
moment. -/
theorem Change.claimed_of {w w' : Workshop} (step : Change w w') {k g : Nat}
    (stake : w'.stakeAt k = some g) :
    w.stakeAt k = some g
      ∨ g = w.provisioner.generation
        ∧ ∃ b, w.jobs[k]? = some (.described b) ∧ w'.jobs[k]? = some (.asked b)
          ∧ b.generation = g := by
  obtain ⟨j', job, own⟩ := Option.bind_eq_some_iff.mp stake
  rcases step.job job with ⟨s, e⟩ | ⟨j, before, fate⟩
  · rw [e] at own
    cases own
  · cases fate with
    | kept => exact .inl (by rw [stakeAt_of_job before, own])
    | turned turn => exact .inl (by rw [stakeAt_of_job before, ← turn.stake_eq, own])
    | claimed b current =>
        -- the only fate that takes a stake
        injection own with own
        exact .inr ⟨own.symm.trans current, b, before, job, own⟩
    | gaveBack b cause => cases own

/-- Builders belong to attempts that have begun. -/
def BuildersLe (w : Workshop) : Prop :=
  ∀ (i : Nat) (b : Builder), w.jobs[i]? = some (.described b) →
    b.generation ≤ w.provisioner.generation

theorem BuildersLe.change {w w' : Workshop} (h : BuildersLe w) (step : Change w w') :
    BuildersLe w' := by
  intro i b job
  have up := step.generation_le
  rcases step.made_of job with ⟨b₀, before, same⟩ | ⟨-, made⟩
  · have le := h i b₀ before
    omega
  · omega

/-- A job has a builder of this attempt, or has failed. -/
def BelongsTo (i generation : Nat) (w : Workshop) : Prop :=
  ∃ j, w.jobs[i]? = some j ∧ j.BelongsTo generation

theorem BelongsTo.change {w w' : Workshop} {i g : Nat} (h : w.BelongsTo i g)
    (step : Change w w') : w'.BelongsTo i g := by
  obtain ⟨j, job, belongs⟩ := h
  obtain ⟨j', after, fate⟩ := step.job_of job
  exact ⟨j', after, fate.belongsTo belongs⟩

/-! ## §3. Stale jobs. -/

/-- The attempt of a job's builder is over before establishing has begun, or
the job has failed already. -/
def Stale (i : Nat) (w : Workshop) : Prop :=
  (∃ b, w.jobs[i]? = some (.described b) ∧ b.generation < w.provisioner.generation)
    ∨ ∃ e, w.jobs[i]? = some (.failed e)

/-- **What is stale stays so**: it is never asked for. -/
theorem Stale.change {w w' : Workshop} {i : Nat} (h : w.Stale i) (step : Change w w') :
    w'.Stale i := by
  have up := step.generation_le
  rcases h with ⟨b, before, old⟩ | ⟨e, before⟩
  · obtain ⟨j', after, fate⟩ := step.job_of before
    cases fate with
    | kept => exact .inl ⟨b, after, by omega⟩
    | turned turn =>
        cases turn with
        | edited b e host => exact .inl ⟨_, after, Nat.lt_of_lt_of_le old up⟩
        | declined b e host => exact .inr ⟨e, after⟩
    | claimed b current =>
        -- a claim would make the builder's attempt the current one
        omega
  · obtain ⟨j', after, fate⟩ := step.job_of before
    cases fate with
    | kept => exact .inr ⟨e, after⟩
    | turned turn => cases turn

/-! ## §4. Establishing. -/

/-- A builder of the current attempt claims it if it is free, and is not told
that it is stale. -/
theorem claim_of_current {b : Builder} {p : Provisioner} (current : b.generation = p.generation)
    (usable : b.spec.checkUsable = .ok ()) :
    b.claim p = if p.claimed then .error .alreadyEstablished
      else .ok { p with claimed := true } := by
  unfold Builder.claim Provisioner.claim
  simp [bind, Except.bind, usable, current]

/-- The steps of jobs touch nothing of the provisioner but the claim. -/
theorem step_provisioner {s : Step} (building : s.isBuilding = true) (work : s.isWork = true)
    (w : Workshop) : ∃ claimed, (w.step s).provisioner = { w.provisioner with claimed } := by
  have untouched : ∃ claimed, w.provisioner = { w.provisioner with claimed } :=
    ⟨w.provisioner.claimed, rfl⟩
  cases s with
  | attach platform => cases work
  | swapOut id => cases work
  | beginAttempt => cases building
  | endAttempt => cases building
  | openJob =>
      show ∃ claimed, w.openJob.provisioner = _
      unfold openJob
      split <;> exact untouched
  | enter i =>
      show ∃ claimed, (w.enter i).provisioner = _
      unfold enter
      split <;> exact untouched
  | edit i e =>
      show ∃ claimed, (w.edit i e).provisioner = _
      unfold edit
      split <;> exact untouched
  | claim i =>
      show ∃ claimed, (w.claim i).provisioner = _
      unfold claim
      split
      next b _ =>
        split
        next p claims =>
          obtain ⟨-, -, -, rfl⟩ := claim_eq_ok_iff.mp claims
          exact ⟨true, rfl⟩
        next => exact untouched
      next => exact untouched
  | answer i a =>
      show ∃ claimed, (w.answer i a).provisioner = _
      unfold answer
      split
      next => split <;> exact untouched
      next => exact untouched
  | giveBack i =>
      show ∃ claimed, (w.giveBack i).provisioner = _
      unfold giveBack
      split
      next b _ _ =>
        show ∃ claimed, w.provisioner.release b.generation = _
        unfold Provisioner.release
        split
        next => exact ⟨false, rfl⟩
        next => exact untouched
      next => exact untouched
  | detachHandle i =>
      show ∃ claimed, (w.detachHandle i).provisioner = _
      unfold detachHandle
      split <;> exact untouched
  | dropHandle i =>
      show ∃ claimed, (w.dropHandle i).provisioner = _
      unfold dropHandle
      split <;> exact untouched

/-- Work in the workshop begins no attempt. -/
theorem step_generation {s : Step} (building : s.isBuilding = true) (w : Workshop) :
    (w.step s).provisioner.generation = w.provisioner.generation := by
  cases work : s.isWork with
  | true =>
      obtain ⟨claimed, after⟩ := step_provisioner building work w
      rw [after]
  | false =>
      cases s with
      | attach platform => rfl
      | swapOut id =>
          show (w.provisioner.swapOut id).2.generation = _
          unfold Provisioner.swapOut
          split <;> rfl
      | _ => cases work

/-- Work with builders and attempts leaves the slot alone, and gives out no id. -/
theorem step_slot {s : Step} (work : s.isWork = true) (w : Workshop) :
    (w.step s).provisioner.service = w.provisioner.service
      ∧ (w.step s).provisioner.issued = w.provisioner.issued := by
  cases building : s.isBuilding with
  | true =>
      obtain ⟨claimed, after⟩ := step_provisioner building work w
      rw [after]
      exact ⟨rfl, rfl⟩
  | false =>
      cases s with
      | beginAttempt => exact ⟨rfl, rfl⟩
      | endAttempt => exact ⟨rfl, rfl⟩
      | _ => cases building

end Workshop

end TunnelControl
