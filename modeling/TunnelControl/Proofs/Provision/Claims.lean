/-
  TunnelControl.Proofs.Provision.Claims
  ─────────────────────────────────────
  **ONE INTERFACE FOR EACH ATTEMPT, WHATEVER ELSE IS BUILT.**

  A claim is taken before the platform is asked and given back after it has
  refused, while other builders work and attempts begin and end.  The ledger
  behind it: a job has a stake in an attempt from its claim on, until it gives
  the claim back; no two jobs have a stake in the same attempt; and the flag
  says whether anyone has a stake in the current one.  So it is set in between
  too, when the platform has refused and the claim is not given back yet.

    • `Job.stake`, `stakeAt`            — the attempt a job has a stake in,
    • `Booking`, `Change.booking`       — what a step does to stakes and flag,
    • `Ledger`, `run_ledger`            — the invariant,
    • `Requests`, `Denied`, `Succeeded` — the three kinds of stake,
    • `one_interface_for_each_attempt`,
    • `claimed_between_refusal_and_release` — why a refusal counts until then.
-/
import TunnelControl.Proofs.Provision.Steps

namespace TunnelControl

/-! ## §1. Stakes. -/

/-- The attempt for which the platform is asked. -/
def Job.request : Job → Option Nat
  | .asked b => some b.generation
  | _ => none

/-- The attempt for which the platform has refused, as long as the claim is
not given back. -/
def Job.denial : Job → Option Nat
  | .refused b _ => some b.generation
  | _ => none

/-- The attempt for which an interface was established. -/
def Job.success : Job → Option Nat
  | .established b _ => some b.generation
  | .disposed b => some b.generation
  | _ => none

/-- The attempt in which a job has a stake: it has claimed the attempt and not
given the claim back. -/
def Job.stake (j : Job) : Option Nat := j.request <|> j.denial <|> j.success

theorem Job.stake_eq_some_iff {j : Job} {g : Nat} :
    j.stake = some g ↔ j.request = some g ∨ j.denial = some g ∨ j.success = some g := by
  cases j <;> simp [stake, request, denial, success]

/-- A job that comes further by itself keeps its stake. -/
theorem Job.Turn.stake_eq {generation : Nat} {j j' : Job} {host host' : Host}
    (turn : j.Turn generation host j' host') : j'.stake = j.stake := by
  cases turn <;> rfl

/-- What was established stays so. -/
theorem Job.Turn.success_of {generation : Nat} {j j' : Job} {host host' : Host}
    (turn : j.Turn generation host j' host') {g : Nat} (h : j.success = some g) :
    j'.success = some g := by
  cases turn with
  | made => cases h
  | edited => cases h
  | declined => cases h
  | granted => cases h
  | refused => cases h
  | detached => exact h
  | disposed => exact h

namespace Workshop

/-- The attempt in which the job at a position has a stake. -/
def stakeAt (i : Nat) (w : Workshop) : Option Nat := (w.jobs[i]?).bind Job.stake

theorem stakeAt_of_job {w : Workshop} {i : Nat} {j : Job} (h : w.jobs[i]? = some j) :
    w.stakeAt i = j.stake := by
  rw [stakeAt, h, Option.bind_some]

theorem stakeAt_setJob {w : Workshop} {i : Nat} {j : Job} (h : w.jobs[i]? = some j) (j' : Job)
    (k : Nat) : (w.setJob i j').stakeAt k = if k = i then j'.stake else w.stakeAt k := by
  rw [stakeAt, getElem?_setJob h]
  by_cases hk : k = i
  · rw [if_pos hk, if_pos hk, Option.bind_some]
  · rw [if_neg hk, if_neg hk, stakeAt]

/-- A job that begins has no stake. -/
theorem stakeAt_opened (w : Workshop) (s : Service) (k : Nat) :
    { w with jobs := w.jobs ++ [Job.opened s] }.stakeAt k = w.stakeAt k := by
  show ((w.jobs ++ [Job.opened s])[k]?).bind Job.stake = (w.jobs[k]?).bind Job.stake
  rw [getElem?_concat]
  split
  next new =>
    rw [new, List.getElem?_eq_none (Nat.le_refl _)]
    rfl
  next => rfl

/-! ## §2. Bookings. -/

/-- What a step does to the stakes and to the flag. -/
inductive Booking (w w' : Workshop) : Prop where
  /-- Nothing. -/
  | none (generation : w'.provisioner.generation = w.provisioner.generation)
      (claimed : w'.provisioner.claimed = w.provisioner.claimed)
      (stakes : ∀ k, w'.stakeAt k = w.stakeAt k)
  /-- Another attempt begins, in which nobody has a stake. -/
  | attempt (generation : w'.provisioner.generation = w.provisioner.generation + 1)
      (claimed : w'.provisioner.claimed = false) (stakes : ∀ k, w'.stakeAt k = w.stakeAt k)
  /-- A job takes a stake in the current attempt, which is free. -/
  | takes (i : Nat) (free : w.provisioner.claimed = false)
      (generation : w'.provisioner.generation = w.provisioner.generation)
      (claimed : w'.provisioner.claimed = true)
      (stakes : ∀ k, w'.stakeAt k = if k = i then some w.provisioner.generation else w.stakeAt k)
  /-- A job gives its stake back; only one in the current attempt frees it. -/
  | gives (i g : Nat) (stake : w.stakeAt i = some g)
      (generation : w'.provisioner.generation = w.provisioner.generation)
      (claimed : w'.provisioner.claimed
        = if w.provisioner.generation = g then false else w.provisioner.claimed)
      (stakes : ∀ k, w'.stakeAt k = if k = i then Option.none else w.stakeAt k)

theorem release_generation (g : Nat) (p : Provisioner) :
    (p.release g).generation = p.generation := by
  unfold Provisioner.release
  split
  next => rfl
  next => rfl

theorem release_claimed (g : Nat) (p : Provisioner) :
    (p.release g).claimed = if p.generation = g then false else p.claimed := by
  unfold Provisioner.release
  split
  next => rfl
  next => rfl

theorem Change.booking {w w' : Workshop} (step : Change w w') : Booking w w' := by
  cases step with
  | served => exact .none rfl rfl fun _ => rfl
  | attempt => exact .attempt rfl rfl fun _ => rfl
  | opened s => exact .none rfl rfl (stakeAt_opened w s)
  | turned i j j' host job turn =>
      refine .none rfl rfl fun k => ?_
      have job' : { w with host := host }.jobs[i]? = some j := job
      rw [stakeAt_setJob job', turn.stake_eq]
      split
      next hk => rw [hk, stakeAt_of_job job]
      next => rfl
  | claimed i b job usable current free =>
      refine .takes i free rfl rfl fun k => ?_
      rw [← current]
      exact stakeAt_setJob (w := { w with provisioner := _ }) job _ k
  | gaveBack i b cause job =>
      have stake : w.stakeAt i = some b.generation := stakeAt_of_job job
      refine .gives i b.generation stake (release_generation _ _) (release_claimed _ _) fun k => ?_
      exact stakeAt_setJob (w := { w with provisioner := _ }) job _ k

/-! ## §3. The ledger. -/

/-- The stakes of all jobs and the flag agree. -/
structure Ledger (w : Workshop) : Prop where
  /-- There are stakes only in attempts that have begun. -/
  le : ∀ i g, w.stakeAt i = some g → g ≤ w.provisioner.generation
  /-- No two jobs have a stake in the same attempt. -/
  unique : ∀ i k g, w.stakeAt i = some g → w.stakeAt k = some g → i = k
  /-- The flag tells whether anyone has a stake in the current attempt. -/
  flag : w.provisioner.claimed = true ↔ ∃ i, w.stakeAt i = some w.provisioner.generation

theorem ledger_initial : Ledger initial where
  le := by
    intro i g h
    cases h
  unique := by
    intro i k g h
    cases h
  flag := by simp [initial, Provisioner.initial, stakeAt]

/-- Nobody has a stake in an attempt that is free. -/
theorem Ledger.stakeAt_ne {w : Workshop} (h : Ledger w) (free : w.provisioner.claimed = false)
    (i : Nat) : w.stakeAt i ≠ some w.provisioner.generation := by
  intro hi
  rw [h.flag.mpr ⟨i, hi⟩] at free
  cases free

theorem Ledger.attempt {w w' : Workshop} (h : Ledger w)
    (generation : w'.provisioner.generation = w.provisioner.generation + 1)
    (claimed : w'.provisioner.claimed = false) (stakes : ∀ k, w'.stakeAt k = w.stakeAt k) :
    Ledger w' where
  le := by
    intro i g hi
    rw [stakes] at hi
    have hle := h.le i g hi
    omega
  unique := by
    intro i k g hi hk
    rw [stakes] at hi hk
    exact h.unique i k g hi hk
  flag := by
    rw [claimed, generation]
    constructor
    · intro hf
      cases hf
    · -- a stake in the new attempt would be one that has not begun
      rintro ⟨i, hi⟩
      rw [stakes] at hi
      have hle := h.le i _ hi
      omega

theorem Ledger.takes {w w' : Workshop} (h : Ledger w) (i : Nat)
    (free : w.provisioner.claimed = false)
    (generation : w'.provisioner.generation = w.provisioner.generation)
    (claimed : w'.provisioner.claimed = true)
    (stakes : ∀ k, w'.stakeAt k = if k = i then some w.provisioner.generation else w.stakeAt k) :
    Ledger w' where
  le := by
    intro k g hk
    rw [generation]
    rw [stakes] at hk
    split at hk
    next =>
      injection hk with hk
      omega
    next => exact h.le k g hk
  unique := by
    intro k k' g hk hk'
    rw [stakes] at hk hk'
    split at hk
    next e =>
      split at hk'
      next e' => rw [e, e']
      next =>
        -- nobody else has a stake in an attempt that was free
        rw [← hk] at hk'
        exact absurd hk' (h.stakeAt_ne free k')
    next =>
      split at hk'
      next =>
        rw [← hk'] at hk
        exact absurd hk (h.stakeAt_ne free k)
      next => exact h.unique k k' g hk hk'
  flag := by
    rw [claimed, generation]
    have hi := stakes i
    rw [if_pos rfl] at hi
    exact ⟨fun _ => ⟨i, hi⟩, fun _ => rfl⟩

theorem Ledger.gives {w w' : Workshop} (h : Ledger w) (i g : Nat) (stake : w.stakeAt i = some g)
    (generation : w'.provisioner.generation = w.provisioner.generation)
    (claimed : w'.provisioner.claimed
      = if w.provisioner.generation = g then false else w.provisioner.claimed)
    (stakes : ∀ k, w'.stakeAt k = if k = i then Option.none else w.stakeAt k) :
    Ledger w' := by
  -- every stake that is left was there before
  have old : ∀ k g', w'.stakeAt k = some g' → k ≠ i ∧ w.stakeAt k = some g' := by
    intro k g' hk
    rw [stakes] at hk
    split at hk
    next => cases hk
    next hki => exact ⟨hki, hk⟩
  refine ⟨?_, ?_, ?_⟩
  · intro k g' hk
    rw [generation]
    exact h.le k g' (old k g' hk).2
  · intro k k' g' hk hk'
    exact h.unique k k' g' (old k g' hk).2 (old k' g' hk').2
  · rw [claimed, generation]
    by_cases hg : w.provisioner.generation = g
    · rw [if_pos hg]
      constructor
      · intro hf
        cases hf
      · rintro ⟨k, hk⟩
        obtain ⟨hki, hk⟩ := old k _ hk
        rw [← hg] at stake
        exact absurd (h.unique k i _ hk stake) hki
    · -- the stake was in another attempt, so those in the current one remain
      rw [if_neg hg, h.flag]
      constructor
      · rintro ⟨k, hk⟩
        have hki : k ≠ i := by
          rintro rfl
          rw [stake] at hk
          injection hk with hk
          exact hg hk.symm
        refine ⟨k, ?_⟩
        rw [stakes, if_neg hki]
        exact hk
      · rintro ⟨k, hk⟩
        exact ⟨k, (old k _ hk).2⟩

theorem Ledger.booking {w w' : Workshop} (h : Ledger w) (b : Booking w w') : Ledger w' := by
  cases b with
  | none generation claimed stakes =>
      refine ⟨?_, ?_, ?_⟩
      · intro i g hi
        rw [stakes] at hi
        rw [generation]
        exact h.le i g hi
      · intro i k g hi hk
        rw [stakes] at hi hk
        exact h.unique i k g hi hk
      · simp only [claimed, generation, stakes]
        exact h.flag
  | attempt generation claimed stakes => exact h.attempt generation claimed stakes
  | takes i free generation claimed stakes => exact h.takes i free generation claimed stakes
  | gives i g stake generation claimed stakes => exact h.gives i g stake generation claimed stakes

/-- **The ledger is in order in every run.** -/
theorem run_ledger (steps : List Step) : Ledger (initial.run steps) :=
  run_induction (fun w s h => h.booking (step_change s w).booking) ledger_initial steps

/-! ## §4. The three kinds of stake. -/

/-- The platform is asked for an interface of an attempt. -/
def Requests (i generation : Nat) (w : Workshop) : Prop :=
  (w.jobs[i]?).bind Job.request = some generation

/-- The platform has refused an interface of an attempt, and the claim is not
given back yet. -/
def Denied (i generation : Nat) (w : Workshop) : Prop :=
  (w.jobs[i]?).bind Job.denial = some generation

/-- An interface of an attempt was established. -/
def Succeeded (i generation : Nat) (w : Workshop) : Prop :=
  (w.jobs[i]?).bind Job.success = some generation

theorem stakeAt_eq_some_iff {w : Workshop} {i g : Nat} :
    w.stakeAt i = some g ↔ w.Requests i g ∨ w.Denied i g ∨ w.Succeeded i g := by
  unfold stakeAt Requests Denied Succeeded
  cases w.jobs[i]? with
  | none => simp
  | some j => exact j.stake_eq_some_iff

/-- A job that is asked for is not established. -/
theorem Requests.not_succeeded {w : Workshop} {i g g' : Nat} (h : w.Requests i g) :
    ¬ w.Succeeded i g' := by
  unfold Requests at h
  unfold Succeeded
  intro h'
  cases hj : w.jobs[i]? with
  | none =>
      rw [hj] at h
      cases h
  | some j =>
      rw [hj, Option.bind_some] at h h'
      cases j <;> simp_all [Job.request, Job.success]

/-- A job that is refused is neither asked for any more nor established. -/
theorem Denied.not_requests_or_succeeded {w : Workshop} {i g g' : Nat} (h : w.Denied i g) :
    ¬ (w.Requests i g' ∨ w.Succeeded i g') := by
  obtain ⟨j, hj, denial⟩ := Option.bind_eq_some_iff.mp h
  unfold Requests Succeeded
  rw [hj, Option.bind_some]
  cases j with
  | refused => simp [Job.request, Job.success]
  | _ => cases denial

theorem Succeeded.setJob {w : Workshop} {k g : Nat} (h : w.Succeeded k g) {i : Nat} {j j' : Job}
    (job : w.jobs[i]? = some j) (keeps : j.success = some g → j'.success = some g) :
    (w.setJob i j').Succeeded k g := by
  unfold Succeeded at h ⊢
  rw [getElem?_setJob job]
  split
  next hk =>
    rw [hk, job] at h
    exact keeps h
  next => exact h

/-- What was established once counts as established for ever. -/
theorem Succeeded.change {w w' : Workshop} {k g : Nat} (h : w.Succeeded k g)
    (step : Change w w') : w'.Succeeded k g := by
  cases step with
  | served => exact h
  | attempt => exact h
  | opened s =>
      obtain ⟨j, hj, hs⟩ := Option.bind_eq_some_iff.mp h
      have hk : k < w.jobs.length := (List.getElem?_eq_some_iff.mp hj).1
      show ((w.jobs ++ [Job.opened s])[k]?).bind Job.success = some g
      rw [List.getElem?_append_left hk]
      exact h
  | turned i j j' host job turn =>
      have h' : { w with host := host }.Succeeded k g := h
      exact h'.setJob job turn.success_of
  | claimed i b job =>
      have h' : { w with provisioner := { w.provisioner with claimed := true } }.Succeeded k g := h
      refine h'.setJob job fun none => ?_
      cases none
  | gaveBack i b cause job =>
      have h' : { w with provisioner := w.provisioner.release b.generation }.Succeeded k g := h
      refine h'.setJob job fun none => ?_
      cases none

theorem Succeeded.run {w : Workshop} {k g : Nat} (h : w.Succeeded k g) (steps : List Step) :
    (w.run steps).Succeeded k g :=
  run_induction (P := fun w => w.Succeeded k g) (fun w s h => h.change (step_change s w)) h steps

/-! ## §5. A refusal. -/

/-- As long as a refused job keeps its claim, nobody else has a stake in the
attempt. -/
theorem Ledger.not_exists_of_denied {w : Workshop} (h : Ledger w) {i g : Nat}
    (denied : w.Denied i g) : ¬ ∃ k, w.Requests k g ∨ w.Succeeded k g := by
  rintro ⟨k, taken⟩
  have stake : w.stakeAt k = some g :=
    stakeAt_eq_some_iff.mpr (taken.elim .inl fun s => .inr (.inr s))
  have same := h.unique i k g (stakeAt_eq_some_iff.mpr (.inr (.inl denied))) stake
  rw [← same] at taken
  exact denied.not_requests_or_succeeded taken

/-- The claim is given back: in its own attempt it frees the flag, and in any
other attempt nothing changes. -/
theorem giveBack_provisioner {w : Workshop} {i : Nat} {b : Builder} {cause : String}
    (job : w.jobs[i]? = some (.refused b cause)) :
    (w.giveBack i).provisioner = w.provisioner.release b.generation := by
  simp only [giveBack, job]
  rfl

/-- A usable builder of the current attempt can claim it while it is free. -/
theorem claim_of_free {w : Workshop} {k : Nat} {b : Builder}
    (job : w.jobs[k]? = some (.described b)) (usable : b.spec.checkUsable = .ok ())
    (current : b.generation = w.provisioner.generation) (free : w.provisioner.claimed = false) :
    (w.claim k).Requests k b.generation := by
  have claims : b.claim w.provisioner = .ok { w.provisioner with claimed := true } :=
    claim_eq_ok_iff.mpr ⟨usable, current, free, rfl⟩
  have job' : { w with provisioner := { w.provisioner with claimed := true } }.jobs[k]?
      = some (.described b) := job
  unfold Requests
  simp only [claim, job, claims]
  rw [getElem?_setJob job', if_pos rfl]
  rfl

/-! ## §6. The main result. -/

/-- What the claim of attempts guarantees. -/
structure OneInterfaceEach (w : Workshop) : Prop where
  /-- The flag is set exactly if some establishing of the current attempt has
  claimed it and has not come to its end, or has succeeded. -/
  flag : w.provisioner.claimed = true ↔ ∃ i, w.Requests i w.provisioner.generation
    ∨ w.Denied i w.provisioner.generation ∨ w.Succeeded i w.provisioner.generation
  /-- Unless a refusal is just about to give its claim back, that means: the
  platform is being asked, or has granted an interface. -/
  settled : (∀ i, ¬ w.Denied i w.provisioner.generation) →
    (w.provisioner.claimed = true ↔ ∃ i, w.Requests i w.provisioner.generation
      ∨ w.Succeeded i w.provisioner.generation)
  /-- In no attempt are two requests outstanding. -/
  request_unique : ∀ i k g, w.Requests i g → w.Requests k g → i = k
  /-- In no attempt is a request outstanding next to a success. -/
  request_alone : ∀ i k g, w.Requests i g → ¬ w.Succeeded k g
  /-- In no attempt do two establishings ever succeed. -/
  success_unique : ∀ steps i k g, w.Succeeded i g → (w.run steps).Succeeded k g → i = k
  /-- A refusal makes its own attempt claimable again, by any usable builder. -/
  claimable : ∀ i b cause, w.jobs[i]? = some (.refused b cause) →
    b.generation = w.provisioner.generation →
      (w.giveBack i).provisioner.claimed = false
      ∧ ∀ k b', (w.giveBack i).jobs[k]? = some (.described b') →
          b'.generation = b.generation → b'.spec.checkUsable = .ok () →
            ((w.giveBack i).claim k).Requests k b.generation
  /-- A refusal for another attempt changes nothing in the current one. -/
  stale : ∀ i b cause, w.jobs[i]? = some (.refused b cause) →
    b.generation ≠ w.provisioner.generation → (w.giveBack i).provisioner = w.provisioner

theorem Ledger.one_interface_each {w : Workshop} (h : Ledger w)
    (later : ∀ steps, Ledger (w.run steps)) : OneInterfaceEach w where
  flag := by
    rw [h.flag]
    simp only [stakeAt_eq_some_iff]
  settled := by
    intro none
    rw [h.flag]
    simp only [stakeAt_eq_some_iff, none, false_or]
  request_unique := by
    intro i k g hi hk
    exact h.unique i k g (stakeAt_eq_some_iff.mpr (.inl hi)) (stakeAt_eq_some_iff.mpr (.inl hk))
  request_alone := by
    intro i k g hi hk
    have same := h.unique i k g (stakeAt_eq_some_iff.mpr (.inl hi))
      (stakeAt_eq_some_iff.mpr (.inr (.inr hk)))
    rw [← same] at hk
    exact hi.not_succeeded hk
  success_unique := by
    intro steps i k g hi hk
    -- the earlier success still has its stake
    have hi' := hi.run steps
    exact (later steps).unique i k g (stakeAt_eq_some_iff.mpr (.inr (.inr hi')))
      (stakeAt_eq_some_iff.mpr (.inr (.inr hk)))
  claimable := by
    intro i b cause job current
    have free : (w.giveBack i).provisioner.claimed = false := by
      rw [giveBack_provisioner job, release_claimed, if_pos current.symm]
    refine ⟨free, fun k b' job' same usable => ?_⟩
    rw [← same]
    refine claim_of_free job' usable ?_ free
    rw [giveBack_provisioner job, release_generation, same, current]
  stale := by
    intro i b cause job other
    rw [giveBack_provisioner job, Provisioner.release, if_neg (Ne.symm other)]

/-- **In every run of every number of builders there is one interface for each
attempt at most**, and the flag of the attempt tells whether it is taken. -/
theorem one_interface_for_each_attempt (steps : List Step) :
    OneInterfaceEach (initial.run steps) := by
  refine (run_ledger steps).one_interface_each fun more => ?_
  rw [← run_append]
  exact run_ledger (steps ++ more)

/-- The platform has refused the first of two builders, which has not given its
claim back: nobody asks and nothing is established, yet the flag is set, and the
second builder is turned away. -/
theorem claimed_between_refusal_and_release :
    let describe (i : Nat) : List Step :=
      [.openJob, .enter i, .edit i (.mtu 1400), .edit i (.address "10.0.0.1" 32)]
    let w := initial.run
      ([.attach ⟨"os", fun _ => .ok (), fun _ => true⟩, .beginAttempt] ++ describe 0 ++ describe 1
        ++ [.claim 0, .answer 0 (.error "busy")])
    w.Denied 0 w.provisioner.generation ∧ w.provisioner.claimed = true
      ∧ (¬ ∃ i, w.Requests i w.provisioner.generation ∨ w.Succeeded i w.provisioner.generation)
      ∧ (w.claim 1).jobs[1]? = some (.failed .alreadyEstablished) := by
  intro describe w
  have denied : w.Denied 0 w.provisioner.generation := rfl
  have nobody := (run_ledger _).not_exists_of_denied denied
  exact ⟨denied, rfl, nobody, rfl⟩

/-- The first builder is refused after the attempt of the second has begun; the
second keeps its claim. -/
example :
    (initial.run
      [.attach ⟨"os", fun _ => .ok (), fun _ => true⟩, .beginAttempt, .openJob, .enter 0,
        .edit 0 (.mtu 1400), .edit 0 (.address "10.0.0.1" 32), .claim 0, .beginAttempt, .openJob,
        .enter 1, .edit 1 (.mtu 1400), .edit 1 (.address "10.0.0.1" 32), .claim 1,
        .answer 0 (.error "busy"), .giveBack 0]).provisioner.claimed = true := by
  decide +kernel

end Workshop

end TunnelControl
