/-
  TunnelControl.Proofs.Provision.Steps
  ────────────────────────────────────
  **WHAT ONE STEP OF A WORKSHOP CAN DO.**

  Every step is taken apart once, here.  A job comes further by itself, or it
  takes or gives back the claim of an attempt; only those two and the change
  of attempts touch the flag.

    • `run_induction`         — runs, taken apart,
    • `Job.Turn`              — a job comes further by itself,
    • `Change`, `step_change` — what a step does,
    • `run_newBuilder`, `run_establish` — the steps of one builder in a row
                                are the operations on it.
-/
import TunnelControl.Provision.Workshop

namespace TunnelControl

/-! ## §1. Jobs. -/

section

variable {α : Type} {l : List α}

/-- What stands at a position after one element was replaced. -/
theorem getElem?_set_of_some {i : Nat} {a : α} (old : l[i]? = some a) (b : α) (k : Nat) :
    (l.set i b)[k]? = if k = i then some b else l[k]? := by
  by_cases same : k = i
  · rw [if_pos same, same, List.getElem?_set_self (List.getElem?_eq_some_iff.mp old).1]
  · rw [if_neg same, List.getElem?_set_ne (Ne.symm same)]

/-- What stands at a position after one element was added. -/
theorem getElem?_concat (l : List α) (b : α) (k : Nat) :
    (l ++ [b])[k]? = if k = l.length then some b else l[k]? := by
  by_cases new : k = l.length
  · rw [if_pos new, new, List.getElem?_concat_length]
  · rw [if_neg new, List.getElem?_append]
    split
    next => rfl
    next => rw [List.getElem?_singleton, if_neg (by omega), List.getElem?_eq_none (by omega)]

end

/-- A job comes further while the attempt and its claim stay as they are. -/
inductive Job.Turn (generation : Nat) : Job → Host → Job → Host → Prop where
  /-- The builder is made. -/
  | made (s : Service) (host : Host) :
      Turn generation (.opened s) host (.described ⟨s, generation, .empty⟩) host
  /-- Its description is changed. -/
  | edited (b : Builder) (e : Edit) (host : Host) :
      Turn generation (.described b) host (.described { b with spec := (e.apply b.spec).2 }) host
  /-- It is turned away before the platform is asked. -/
  | declined (b : Builder) (e : ProvisionError) (host : Host) :
      Turn generation (.described b) host (.failed e) host
  /-- The platform grants a descriptor. -/
  | granted (b : Builder) (host : Host) :
      Turn generation (.asked b) host (.established b ⟨some (host.grant b.service.id b.spec).1⟩)
        (host.grant b.service.id b.spec).2
  /-- The platform refuses. -/
  | refused (b : Builder) (cause : String) (host : Host) :
      Turn generation (.asked b) host (.refused b cause) host
  /-- The descriptor is handed over, or was before. -/
  | detached (b : Builder) (handle : Handle) (host : Host) :
      Turn generation (.established b handle) host (.established b (handle.detach host).2.1)
        (handle.detach host).2.2
  /-- The handle is given up. -/
  | disposed (b : Builder) (handle : Handle) (host : Host) :
      Turn generation (.established b handle) host (.disposed b) (handle.drop host)

namespace Workshop

/-! ## §2. Runs. -/

@[simp] theorem run_nil (w : Workshop) : w.run [] = w := rfl

@[simp] theorem run_cons (s : Step) (steps : List Step) (w : Workshop) :
    w.run (s :: steps) = (w.step s).run steps := rfl

theorem run_append (before after : List Step) (w : Workshop) :
    w.run (before ++ after) = (w.run before).run after := by
  simp only [run, List.foldl_append]

/-- What every step keeps holds after every run. -/
theorem run_induction {P : Workshop → Prop} (step : ∀ w s, P w → P (w.step s)) {w : Workshop}
    (h : P w) (steps : List Step) : P (w.run steps) := by
  induction steps generalizing w with
  | nil => exact h
  | cons s steps ih => exact ih (step w s h)

theorem getElem?_setJob {w : Workshop} {i : Nat} {j : Job} (h : w.jobs[i]? = some j) (j' : Job)
    (k : Nat) : (w.setJob i j').jobs[k]? = if k = i then some j' else w.jobs[k]? :=
  getElem?_set_of_some h j' k

/-! ## §3. Steps. -/

/-- The ways in which a step changes a workshop. -/
inductive Change (w : Workshop) : Workshop → Prop where
  /-- Another service is attached, or none. -/
  | served (service : Option Service) (issued : Nat) :
      Change w { w with provisioner := { w.provisioner with service, issued } }
  /-- The attempt is another one. -/
  | attempt : Change w { w with provisioner := w.provisioner.beginAttempt }
  /-- A job is begun. -/
  | opened (s : Service) (attached : w.provisioner.service = some s) :
      Change w { w with jobs := w.jobs ++ [.opened s] }
  /-- A job comes further by itself. -/
  | turned (i : Nat) (j j' : Job) (host : Host) (job : w.jobs[i]? = some j)
      (turn : j.Turn w.provisioner.generation w.host j' host) :
      Change w ({ w with host }.setJob i j')
  /-- A job claims the attempt. -/
  | claimed (i : Nat) (b : Builder) (job : w.jobs[i]? = some (.described b))
      (usable : b.spec.checkUsable = .ok ()) (current : b.generation = w.provisioner.generation)
      (free : w.provisioner.claimed = false) :
      Change w ({ w with provisioner := { w.provisioner with claimed := true } }.setJob i
        (.asked b))
  /-- A job gives its claim back. -/
  | gaveBack (i : Nat) (b : Builder) (cause : String) (job : w.jobs[i]? = some (.refused b cause)) :
      Change w ({ w with provisioner := w.provisioner.release b.generation }.setJob i
        (.failed (.denied cause)))

theorem Change.refl (w : Workshop) : Change w w :=
  .served w.provisioner.service w.provisioner.issued

/-- A builder claims its attempt if that is the current one and free, and if
the description is usable. -/
theorem claim_eq_ok_iff {b : Builder} {p p' : Provisioner} :
    b.claim p = .ok p' ↔ b.spec.checkUsable = .ok () ∧ b.generation = p.generation
      ∧ p.claimed = false ∧ p' = { p with claimed := true } := by
  unfold Builder.claim Provisioner.claim
  cases hu : b.spec.checkUsable with
  | error e => simp [bind, Except.bind]
  | ok u =>
      -- the attempt is compared first, then the flag
      by_cases hg : p.generation = b.generation
      · cases hc : p.claimed with
        | true => simp [bind, Except.bind, hg]
        | false => simp [bind, Except.bind, hg, eq_comm]
      · simp [bind, Except.bind, hg, Ne.symm hg]

theorem enter_change (i : Nat) (w : Workshop) : Change w (w.enter i) := by
  unfold enter
  split
  next s hj => exact .turned i _ _ w.host hj (.made s w.host)
  next => exact .refl w

theorem edit_change (i : Nat) (e : Edit) (w : Workshop) : Change w (w.edit i e) := by
  unfold edit
  split
  next b hj => exact .turned i _ _ w.host hj (.edited b e w.host)
  next => exact .refl w

theorem claim_change (i : Nat) (w : Workshop) : Change w (w.claim i) := by
  unfold claim
  split
  next b hj =>
    split
    next p hp =>
      obtain ⟨usable, current, free, rfl⟩ := claim_eq_ok_iff.mp hp
      exact .claimed i b hj usable current free
    next e _ => exact .turned i _ _ w.host hj (.declined b e w.host)
  next => exact .refl w

theorem answer_change (i : Nat) (a : Except String Unit) (w : Workshop) :
    Change w (w.answer i a) := by
  unfold answer
  split
  next b hj =>
    split
    next => exact .turned i _ _ _ hj (.granted b w.host)
    next cause => exact .turned i _ _ w.host hj (.refused b cause w.host)
  next => exact .refl w

theorem giveBack_change (i : Nat) (w : Workshop) : Change w (w.giveBack i) := by
  unfold giveBack
  split
  next b cause hj => exact .gaveBack i b cause hj
  next => exact .refl w

theorem detachHandle_change (i : Nat) (w : Workshop) : Change w (w.detachHandle i) := by
  unfold detachHandle
  split
  next b handle hj => exact .turned i _ _ _ hj (.detached b handle w.host)
  next => exact .refl w

theorem dropHandle_change (i : Nat) (w : Workshop) : Change w (w.dropHandle i) := by
  unfold dropHandle
  split
  next b handle hj => exact .turned i _ _ _ hj (.disposed b handle w.host)
  next => exact .refl w

/-- **Every step changes a workshop in one of these ways.** -/
theorem step_change (s : Step) (w : Workshop) : Change w (w.step s) := by
  cases s with
  | attach platform => exact .served _ _
  | swapOut id =>
      show Change w { w with provisioner := (w.provisioner.swapOut id).2 }
      unfold Provisioner.swapOut
      split
      next => exact .served none w.provisioner.issued
      next => exact .refl w
  | beginAttempt => exact .attempt
  | endAttempt => exact .attempt
  | openJob =>
      show Change w w.openJob
      unfold openJob
      split
      next => exact .refl w
      next s hs => exact .opened s hs
  | enter i => exact enter_change i w
  | edit i e => exact edit_change i e w
  | claim i => exact claim_change i w
  | answer i a => exact answer_change i a w
  | giveBack i => exact giveBack_change i w
  | detachHandle i => exact detachHandle_change i w
  | dropHandle i => exact dropHandle_change i w

/-! ## §4. The steps of one builder in a row. -/

/-- With nothing in between, the steps that make a builder are `newBuilder`. -/
theorem run_newBuilder (w : Workshop) :
    (w.run [.openJob, .enter w.jobs.length]).jobs = match w.provisioner.newBuilder with
      | .ok b => w.jobs ++ [.described b]
      | .error _ => w.jobs := by
  show (w.openJob.enter w.jobs.length).jobs = _
  unfold openJob Provisioner.newBuilder
  cases w.provisioner.service with
  | none => simp [enter]
  | some s => simp [enter, setJob]

/-- What has become of a builder whose establishing has ended. -/
def outcome (b : Builder) : Except ProvisionError Handle → Job
  | .ok handle => .established b handle
  | .error e => .failed e

/-- **With nothing in between, the steps that establish an interface are
`establish`.** -/
theorem run_establish {w : Workshop} {i : Nat} {b : Builder}
    (h : w.jobs[i]? = some (.described b)) :
    w.run [.claim i, .answer i (b.service.platform.establish b.spec), .giveBack i]
      = { provisioner := (b.establish w.provisioner w.host).2.1
          host := (b.establish w.provisioner w.host).2.2
          jobs := w.jobs.set i (outcome b (b.establish w.provisioner w.host).1) } := by
  have hi : i < w.jobs.length := (List.getElem?_eq_some_iff.mp h).1
  show ((w.claim i).answer i _).giveBack i = _
  unfold claim Builder.establish
  simp only [h]
  cases b.claim w.provisioner with
  | error e => simp [answer, giveBack, setJob, outcome, hi]
  | ok p =>
      cases b.service.platform.establish b.spec with
      | ok u => simp [answer, giveBack, setJob, outcome, hi, Builder.answered]
      | error cause => simp [answer, giveBack, setJob, outcome, hi, Builder.answered]

end Workshop

end TunnelControl
