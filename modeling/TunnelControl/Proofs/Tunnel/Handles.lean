/-
  TunnelControl.Proofs.Tunnel.Handles
  ───────────────────────────────────
  **THE ATTEMPT BEHIND A HANDLE.**

  Whoever gets a handle has claimed the attempt in which the builder was made,
  while it was still the current one.  No turn lies between the two.  If a
  connect request has opened that attempt, the session is thus on its way to be
  connected when the platform is asked.

  The law ends there.  An attempt also exists before the first connect request
  and after the session has ended, and the platform's answer is not held
  against the attempt again.

    • `Makes`, `Claims`               — the two steps behind a handle,
    • `described_origin`, `stake_origin` — every builder was made, and every
                                        stake was claimed,
    • `handles_are_claimed_in_their_attempt`,
    • `handles_beyond_live_attempts`  — where the law ends.
-/
import TunnelControl.Proofs.Tunnel.Runs

namespace TunnelControl.Tunnel

/-! ## §1. The steps behind a handle. -/

/-- The step makes the builder of a job, in this attempt. -/
structure Makes (i generation : Nat) (s : Step) (t : Tunnel) : Prop where
  opened : ∃ service, t.jobs[i]? = some (.opened service)
  described : ∃ b, (t.step s).jobs[i]? = some (.described b) ∧ b.generation = generation
  current : t.session.provisioner.generation = generation

/-- With the step a job claims this attempt; the platform is asked next. -/
structure Claims (i generation : Nat) (s : Step) (t : Tunnel) : Prop where
  asked : ∃ b, t.jobs[i]? = some (.described b) ∧ (t.step s).jobs[i]? = some (.asked b)
    ∧ b.generation = generation
  current : t.session.provisioner.generation = generation

/-- A builder was there before the run, or one of its steps has made it. -/
theorem described_origin {i : Nat} {b' : Builder} {steps : List Step} {t : Tunnel}
    (job : (t.run steps).jobs[i]? = some (.described b')) :
    (∃ b, t.jobs[i]? = some (.described b) ∧ b.generation = b'.generation)
      ∨ ∃ before made after, steps = before ++ made :: after
        ∧ Makes i b'.generation made (t.run before) := by
  induction steps generalizing t with
  | nil => exact .inl ⟨b', job, rfl⟩
  | cons s steps ih =>
      rcases ih job with ⟨b, next, same⟩ | ⟨before, made, after, rfl, makes⟩
      · rcases (step_change s t).made_of next with ⟨b₀, first, same'⟩ | ⟨opened, current⟩
        · exact .inl ⟨b₀, first, same'.trans same⟩
        · exact .inr ⟨[], s, steps, rfl, opened, ⟨b, next, same⟩, current.symm.trans same⟩
      · exact .inr ⟨s :: before, made, after, rfl, makes⟩

/-- A stake was held before the run, or one of its steps has claimed it. -/
theorem stake_origin {i g : Nat} {steps : List Step} {t : Tunnel}
    (stake : (t.run steps).workshop.stakeAt i = some g) :
    t.workshop.stakeAt i = some g
      ∨ ∃ before claim after, steps = before ++ claim :: after
        ∧ Claims i g claim (t.run before) := by
  induction steps generalizing t with
  | nil => exact .inl stake
  | cons s steps ih =>
      rcases ih stake with next | ⟨before, claim, after, rfl, claims⟩
      · rcases (step_change s t).claimed_of next with first | ⟨current, asked⟩
        · exact .inl first
        · exact .inr ⟨[], s, steps, rfl, asked, current.symm⟩
      · exact .inr ⟨s :: before, claim, after, rfl, claims⟩

/-! ## §2. The main result. -/

/-- The attempt of this number is live: an accepted connect request has opened
it, and there was no turn since. -/
def Live (generation : Nat) (turns : List Turn) : Prop :=
  turns.length = generation ∧ turns.getLast?.any Turn.opens = true

instance (generation : Nat) (turns : List Turn) : Decidable (Live generation turns) :=
  inferInstanceAs (Decidable (_ ∧ _))

/-- What lies behind the interface of a job, in a run from the beginning. -/
structure ClaimedBefore (t : Tunnel) (i generation : Nat) (before : List Step) (made : Step)
    (between : List Step) (claim : Step) : Prop where
  /-- The builder was made in the attempt that was the current one. -/
  makes : Makes i generation made (t.run before)
  /-- The attempt was claimed when it was the current one. -/
  claims : Claims i generation claim (t.run (before ++ made :: between))
  /-- Neither a connect request that is accepted, or refused for the end of the
  worker, nor a terminated callback was handled from the making of the builder
  to the claim. -/
  calm : t.turns (before ++ made :: between) = t.turns before
  /-- The attempt bears the number of the turns until then. -/
  numbered : (t.turns before).length = generation
  /-- If a connect request has opened the attempt, it was live at the claim. -/
  live : (t.turns before).getLast?.any Turn.opens = true →
    Live generation (t.turns (before ++ made :: between))

theorem claimedBefore {interval i g : Nat} {steps : List Step}
    (stake : ((start interval).run steps).workshop.stakeAt i = some g) :
    ∃ before made between claim after, steps = before ++ made :: (between ++ claim :: after)
      ∧ ClaimedBefore (start interval) i g before made between claim := by
  -- there is no job at the beginning, so both steps are found in the run
  rcases stake_origin stake with first | ⟨till, claim, after, rfl, claims⟩
  · cases first
  obtain ⟨b, job, -, own⟩ := claims.asked
  rcases described_origin job with ⟨b₀, first, -⟩ | ⟨before, made, between, rfl, makes⟩
  · cases first
  rw [own] at makes
  have numbered : ((start interval).turns before).length = g := by
    have number := run_generation before (start interval)
    have zero : (start interval).session.provisioner.generation = 0 := rfl
    rw [makes.current, zero, Nat.zero_add] at number
    exact number.symm
  -- the attempt is the same at the making and at the claim
  have calm : (start interval).turns (before ++ made :: between)
      = (start interval).turns before := by
    rw [turns_append]
    have same := claims.current.trans makes.current.symm
    rw [run_append] at same
    rw [turns_eq_nil_of_generation same, List.append_nil]
  refine ⟨before, made, between, claim, after, by simp, makes, claims, calm, numbered, ?_⟩
  intro opens
  rw [calm]
  exact ⟨numbered, opens⟩

/-- **Whoever gets a handle has claimed the attempt of the builder, with no
turn since the builder was made**; and nobody else gets one in that attempt. -/
theorem handles_are_claimed_in_their_attempt (interval : Nat) (steps : List Step) (i g : Nat)
    (handed : ((start interval).run steps).workshop.Succeeded i g) :
    (∃ before made between claim after, steps = before ++ made :: (between ++ claim :: after)
      ∧ ClaimedBefore (start interval) i g before made between claim)
    ∧ ∀ more k, ((start interval).run (steps ++ more)).workshop.Succeeded k g → k = i := by
  refine ⟨claimedBefore (Workshop.stakeAt_eq_some_iff.mpr (.inr (.inr handed))), ?_⟩
  intro more k other
  have still : ((start interval).run (steps ++ more)).workshop.Succeeded i g := by
    rw [run_append]
    exact run_workshop (fun h step => h.change step) handed more
  have ledger := run_ledger interval (steps ++ more)
  exact ledger.unique k i g (Workshop.stakeAt_eq_some_iff.mpr (.inr (.inr other)))
    (Workshop.stakeAt_eq_some_iff.mpr (.inr (.inr still)))

/-- A host service that grants every interface is attached. -/
def attached : Step := .building ⟨.attach ⟨"os", fun _ => .ok (), fun _ => true⟩, rfl⟩

/-- A connect request is made and handled. -/
def connected : List Step :=
  [.session (.request (.connect { endpoint := "vpn", userToken := some "t" })),
    .session .handleNext]

/-- The engine reports the end of the session, and that is handled. -/
def ended : List Step := [.session (.callback .terminated), .session .handleNext]

/-- An engine describes an interface and begins to establish it. -/
def establishing (i : Nat) : List Step :=
  [.building ⟨.openJob, rfl⟩, .building ⟨.enter i, rfl⟩, .building ⟨.edit i (.mtu 1420), rfl⟩,
    .building ⟨.edit i (.address "100.89.128.4" 20), rfl⟩, .building ⟨.claim i, rfl⟩]

/-- The platform grants it. -/
def granted (i : Nat) : Step := .building ⟨.answer i (.ok ()), rfl⟩

/-- An engine gets its handle after the attempt has ended and the next one has
its own interface; it had claimed the attempt in time. -/
theorem handle_after_its_attempt_was_claimed_in_time :
    let steps := attached :: (connected ++ establishing 0 ++ connected ++ establishing 1
      ++ [granted 1, granted 0])
    ((start 5000).run steps).workshop.Succeeded 0 1
      ∧ (∃ before made between claim after, steps = before ++ made :: (between ++ claim :: after)
        ∧ ClaimedBefore (start 5000) 0 1 before made between claim)
      ∧ ∀ more k, ((start 5000).run (steps ++ more)).workshop.Succeeded k 1 → k = 0 := by
  intro steps
  have handed : ((start 5000).run steps).workshop.Succeeded 0 1 := by
    unfold Workshop.Succeeded
    decide +kernel
  exact ⟨handed, handles_are_claimed_in_their_attempt 5000 steps 0 1 handed⟩

/-! ## §3. Where the law ends. -/

/-- The last step of a run hands out an interface of an attempt that is not
live. -/
def HandsOutBeyond (steps : List Step) (i generation : Nat) : Prop :=
  ((start 5000).run steps).workshop.Requests i generation
    ∧ ((start 5000).run (steps ++ [granted i])).workshop.Succeeded i generation
    ∧ ¬ Live generation ((start 5000).turns steps)

instance (steps : List Step) (i generation : Nat) : Decidable (HandsOutBeyond steps i generation) :=
  inferInstanceAs (Decidable (_ = _ ∧ _ = _ ∧ ¬ _))

/-- Interfaces are handed out before the first connect request, after the end
of the session, and in an attempt that has ended meanwhile, next to the
interface of the attempt after it. -/
theorem handles_beyond_live_attempts :
    let early := attached :: establishing 0
    let late := attached :: (connected ++ ended ++ establishing 0)
    let astride := attached :: (connected ++ establishing 0 ++ ended ++ connected
      ++ establishing 1 ++ [granted 1])
    HandsOutBeyond early 0 0 ∧ HandsOutBeyond late 0 2 ∧ HandsOutBeyond astride 0 1
      ∧ ((start 5000).run (astride ++ [granted 0])).workshop.Succeeded 1 3 := by
  unfold Workshop.Succeeded
  decide +kernel

end TunnelControl.Tunnel
