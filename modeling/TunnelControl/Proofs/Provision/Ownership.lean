/-
  TunnelControl.Proofs.Provision.Ownership
  ────────────────────────────────────────
  **WHO OWNS A DESCRIPTOR, AND WHAT HAS BECOME OF IT.**

  A descriptor comes into being when the platform grants it, and then it
  belongs to the handle of one job.  It leaves that handle once: it is handed
  over, or closed when the handle is given up.  The steps that do these three
  things are written down one after the other, and the record agrees with what
  the handles own and with the condition of each descriptor.

    • `heldBy`, `Event`, `eventBy` — what handles own, and what steps do to it,
    • `Movement`, `step_movement`  — every step, seen by descriptors,
    • `Account`, `Account.step`    — record, handles and conditions agree,
    • `Released`, `Released.change` — a handle that owns nothing stays so.
-/
import TunnelControl.Proofs.Provision.Jobs

namespace TunnelControl

/-! ## §1. Descriptors and handles. -/

/-- The descriptor that the handle of a job owns. -/
def Job.descriptor : Job → Option Nat
  | .established _ handle => handle.descriptor
  | _ => none

/-- What has become of a descriptor, if it was granted. -/
def Host.condition? (d : Nat) (host : Host) : Option Condition :=
  (host.grants[d]?).map (·.condition)

theorem Host.condition?_isSome_iff {d : Nat} {host : Host} :
    (host.condition? d).isSome = true ↔ d < host.grants.length := by
  rw [condition?, Option.isSome_map, Option.isSome_iff_ne_none, Ne, List.getElem?_eq_none_iff,
    Nat.not_le]

theorem Host.condition?_grant (d serviceId : Nat) (spec : InterfaceSpec) (host : Host) :
    (host.grant serviceId spec).2.condition? d
      = if d = host.grants.length then some .owned else host.condition? d := by
  show ((host.grants ++ [_])[d]?).map _ = _
  rw [getElem?_concat]
  split <;> rfl

theorem Host.condition?_settle (d e : Nat) (c : Condition) (host : Host) :
    (host.settle e c).condition? d
      = if d = e then (host.condition? d).map fun _ => c else host.condition? d := by
  show ((host.grants.modify e _)[d]?).map _ = _
  rw [List.getElem?_modify]
  by_cases same : e = d
  · subst same
    rw [if_pos rfl, condition?, Option.map_map]
    cases host.grants[e]? <;> simp
  · rw [if_neg (Ne.symm same), condition?]
    cases host.grants[d]? <;> simp [same]

namespace Handle

/-- A descriptor that the handle owns comes into a condition. -/
def leave (c : Condition) (handle : Handle) (host : Host) : Host :=
  match handle.descriptor with
  | none => host
  | some d => host.settle d c

theorem detach_result (handle : Handle) (host : Host) :
    (handle.detach host).1.toOption = handle.descriptor := by
  unfold detach
  cases handle.descriptor <;> rfl

theorem detach_host (handle : Handle) (host : Host) :
    (handle.detach host).2.2 = handle.leave .handedOver host := by
  unfold detach leave
  cases handle.descriptor <;> rfl

/-- A handle owns nothing after a detach, whether that succeeded or not. -/
theorem detach_descriptor (handle : Handle) (host : Host) :
    (handle.detach host).2.1.descriptor = none := by
  unfold detach
  cases owns : handle.descriptor with
  | none => exact owns
  | some d => rfl

/-- **What owns nothing cannot be detached**, and trying changes nothing. -/
theorem detach_of_none {handle : Handle} (nothing : handle.descriptor = none) (host : Host) :
    handle.detach host = (.error .alreadyDetached, handle, host) := by
  unfold detach
  rw [nothing]

end Handle

namespace Workshop

/-- The descriptor that the handle of the job at a position owns. -/
def heldBy (i : Nat) (w : Workshop) : Option Nat := (w.jobs[i]?).bind Job.descriptor

/-- A descriptor comes into a condition. -/
structure Event where
  descriptor : Nat
  condition : Condition
deriving DecidableEq

/-- What a step does to descriptors: the platform grants one, a detach that
succeeds hands one over, and a handle that is given up closes the one that it
owns. -/
def eventBy (s : Step) (w : Workshop) : Option Event :=
  match s with
  | .answer i (.ok ()) =>
      match w.jobs[i]? with
      | some (.asked _) => some ⟨w.host.grants.length, .owned⟩
      | _ => none
  | .detachHandle i =>
      match w.jobs[i]? with
      | some (.established _ handle) =>
          (handle.detach w.host).1.toOption.map fun d => ⟨d, .handedOver⟩
      | _ => none
  | .dropHandle i => (w.heldBy i).map fun d => ⟨d, .closed⟩
  | _ => none

/-! ## §2. Steps. -/

theorem heldBy_setJob {w : Workshop} {i : Nat} {j : Job} (job : w.jobs[i]? = some j) (j' : Job)
    (k : Nat) : (w.setJob i j').heldBy k = if k = i then j'.descriptor else w.heldBy k := by
  rw [heldBy, getElem?_setJob job]
  by_cases same : k = i
  · rw [if_pos same, if_pos same, Option.bind_some]
  · rw [if_neg same, if_neg same, heldBy]

/-- Nothing happens to handles and descriptors. -/
structure Quiet (w w' : Workshop) : Prop where
  host : w'.host = w.host
  held : ∀ k, w'.heldBy k = w.heldBy k

theorem Quiet.refl (w : Workshop) : Quiet w w := ⟨rfl, fun _ => rfl⟩

/-- A job without a handle remains one without. -/
theorem Quiet.setJob {w : Workshop} {i : Nat} {j j' : Job} {p : Provisioner}
    (job : w.jobs[i]? = some j) (before : j.descriptor = none) (after : j'.descriptor = none) :
    Quiet w ({ w with provisioner := p }.setJob i j') where
  host := rfl
  held := by
    intro k
    have job' : { w with provisioner := p }.jobs[i]? = some j := job
    rw [heldBy_setJob job']
    split
    next same => rw [same, heldBy, job, Option.bind_some, before, after]
    next => rfl

theorem openJob_quiet (w : Workshop) : Quiet w w.openJob := by
  unfold openJob
  split
  next => exact .refl w
  next s _ =>
    refine ⟨rfl, fun k => ?_⟩
    show ((w.jobs ++ [Job.opened s])[k]?).bind Job.descriptor = (w.jobs[k]?).bind Job.descriptor
    rw [getElem?_concat]
    split
    next new =>
      rw [new, List.getElem?_eq_none (Nat.le_refl _)]
      rfl
    next => rfl

theorem enter_quiet (i : Nat) (w : Workshop) : Quiet w (w.enter i) := by
  unfold enter
  split
  next s job => exact .setJob job rfl rfl
  next => exact .refl w

theorem edit_quiet (i : Nat) (e : Edit) (w : Workshop) : Quiet w (w.edit i e) := by
  unfold edit
  split
  next b job => exact .setJob job rfl rfl
  next => exact .refl w

theorem claim_quiet (i : Nat) (w : Workshop) : Quiet w (w.claim i) := by
  unfold claim
  split
  next b job =>
    split
    next => exact .setJob job rfl rfl
    next => exact .setJob job rfl rfl
  next => exact .refl w

theorem giveBack_quiet (i : Nat) (w : Workshop) : Quiet w (w.giveBack i) := by
  unfold giveBack
  split
  next b cause job => exact .setJob job rfl rfl
  next => exact .refl w

/-- What a step does to handles and descriptors. -/
inductive Movement (w : Workshop) (s : Step) : Option Event → Prop where
  | none (quiet : Quiet w (w.step s)) : Movement w s none
  /-- A job gets a handle with the next descriptor. -/
  | granted (i serviceId : Nat) (spec : InterfaceSpec) (empty : w.heldBy i = .none)
      (host : (w.step s).host = (w.host.grant serviceId spec).2)
      (held : ∀ k, (w.step s).heldBy k
        = if k = i then some w.host.grants.length else w.heldBy k) :
      Movement w s (some ⟨w.host.grants.length, .owned⟩)
  /-- A descriptor leaves its handle. -/
  | left (i d : Nat) (c : Condition) (owner : w.heldBy i = some d)
      (way : s = .detachHandle i ∧ c = .handedOver ∨ s = .dropHandle i ∧ c = .closed)
      (host : (w.step s).host = w.host.settle d c)
      (held : ∀ k, (w.step s).heldBy k = if k = i then Option.none else w.heldBy k) :
      Movement w s (some ⟨d, c⟩)

theorem Movement.idle {w : Workshop} {s : Step} (same : w.step s = w) : Movement w s Option.none := by
  refine .none ?_
  rw [same]
  exact .refl w

/-- If the platform agrees, a job that has asked gets a handle. -/
theorem answer_movement (i : Nat) (a : Except String Unit) (w : Workshop) :
    Movement w (.answer i a) (w.eventBy (.answer i a)) := by
  cases a with
  | error cause =>
      refine .none ?_
      show Quiet w (w.answer i (.error cause))
      unfold answer
      split
      next b job => exact .setJob job rfl rfl
      next => exact .refl w
  | ok u =>
      by_cases asked : ∃ b, w.jobs[i]? = some (.asked b)
      · obtain ⟨b, job⟩ := asked
        have after : w.step (.answer i (.ok u))
            = { w with host := (w.host.grant b.service.id b.spec).2 }.setJob i
              (.established b ⟨some w.host.grants.length⟩) := by
          show w.answer i (.ok u) = _
          unfold answer
          rw [job]
          rfl
        have event : w.eventBy (.answer i (.ok u)) = some ⟨w.host.grants.length, .owned⟩ := by
          unfold eventBy
          simp only [job]
        rw [event]
        refine .granted i b.service.id b.spec ?_ ?_ fun k => ?_
        · rw [heldBy, job]
          rfl
        · rw [after]
          rfl
        · rw [after]
          exact heldBy_setJob (w := { w with host := _ }) job _ k
      · have after : w.step (.answer i (.ok u)) = w := by
          show w.answer i (.ok u) = w
          unfold answer
          split
          next b job => exact absurd ⟨b, job⟩ asked
          next => rfl
        have event : w.eventBy (.answer i (.ok u)) = none := by
          unfold eventBy
          dsimp only
          split
          next b job => exact absurd ⟨b, job⟩ asked
          next => rfl
        rw [event]
        exact .idle after

/-- A job is left without a descriptor, and the one that it had comes into a
condition. -/
theorem left_movement {w : Workshop} {s : Step} {i : Nat} {b : Builder} {handle : Handle} {j' : Job}
    {c : Condition} (job : w.jobs[i]? = some (.established b handle))
    (empty : j'.descriptor = none)
    (way : s = .detachHandle i ∧ c = .handedOver ∨ s = .dropHandle i ∧ c = .closed)
    (after : w.step s = { w with host := handle.leave c w.host }.setJob i j') :
    Movement w s (handle.descriptor.map fun d => ⟨d, c⟩) := by
  have owner : w.heldBy i = handle.descriptor := by
    rw [heldBy, job]
    rfl
  have job' : { w with host := handle.leave c w.host }.jobs[i]? = some (.established b handle) := job
  have held := heldBy_setJob job' j'
  rw [← after, empty] at held
  have host : (w.step s).host = handle.leave c w.host := congrArg Workshop.host after
  unfold Handle.leave at host
  cases owns : handle.descriptor with
  | none =>
      rw [owns] at owner host
      refine .none ⟨host, fun k => (held k).trans ?_⟩
      split
      next same => rw [same, owner]
      next => rfl
  | some d =>
      rw [owns] at owner host
      exact .left i d c owner way host held

/-- A detach that succeeds hands the descriptor over. -/
theorem detachHandle_movement (i : Nat) (w : Workshop) :
    Movement w (.detachHandle i) (w.eventBy (.detachHandle i)) := by
  by_cases there : ∃ b handle, w.jobs[i]? = some (.established b handle)
  · obtain ⟨b, handle, job⟩ := there
    have after : w.step (.detachHandle i) = { w with host := handle.leave .handedOver w.host }.setJob i
        (.established b (handle.detach w.host).2.1) := by
      show w.detachHandle i = _
      unfold detachHandle
      rw [job, ← handle.detach_host]
    have event : w.eventBy (.detachHandle i) = handle.descriptor.map fun d => ⟨d, .handedOver⟩ := by
      unfold eventBy
      simp only [job, handle.detach_result]
    rw [event]
    have empty : (Job.established b (handle.detach w.host).2.1).descriptor = none :=
      handle.detach_descriptor w.host
    exact left_movement job empty (.inl ⟨rfl, rfl⟩) after
  · have after : w.step (.detachHandle i) = w := by
      show w.detachHandle i = w
      unfold detachHandle
      split
      next b handle job => exact absurd ⟨b, handle, job⟩ there
      next => rfl
    have event : w.eventBy (.detachHandle i) = none := by
      unfold eventBy
      dsimp only
      split
      next b handle job => exact absurd ⟨b, handle, job⟩ there
      next => rfl
    rw [event]
    exact .idle after

/-- A handle that is given up closes the descriptor that it owns. -/
theorem dropHandle_movement (i : Nat) (w : Workshop) :
    Movement w (.dropHandle i) (w.eventBy (.dropHandle i)) := by
  have step : w.step (.dropHandle i) = w.dropHandle i := rfl
  unfold dropHandle at step
  show Movement w _ ((w.heldBy i).map _)
  split at step
  next b handle job =>
    have owner : w.heldBy i = handle.descriptor := by
      rw [heldBy, job]
      rfl
    rw [owner]
    exact left_movement job rfl (.inr ⟨rfl, rfl⟩) step
  next others =>
    have nothing : w.heldBy i = none := by
      unfold heldBy
      cases job : w.jobs[i]? with
      | none => rfl
      | some j =>
          cases j with
          | established b handle => exact absurd job (others b handle)
          | _ => rfl
    rw [nothing]
    exact .idle step

/-- **Every step grants one descriptor, takes one from its handle, or does
nothing to them.** -/
theorem step_movement (s : Step) (w : Workshop) : Movement w s (w.eventBy s) := by
  cases s with
  | attach platform => exact .none ⟨rfl, fun _ => rfl⟩
  | swapOut id => exact .none ⟨rfl, fun _ => rfl⟩
  | beginAttempt => exact .none ⟨rfl, fun _ => rfl⟩
  | endAttempt => exact .none ⟨rfl, fun _ => rfl⟩
  | openJob => exact .none (openJob_quiet w)
  | enter i => exact .none (enter_quiet i w)
  | edit i e => exact .none (edit_quiet i e w)
  | claim i => exact .none (claim_quiet i w)
  | answer i a => exact answer_movement i a w
  | giveBack i => exact .none (giveBack_quiet i w)
  | detachHandle i => exact detachHandle_movement i w
  | dropHandle i => exact dropHandle_movement i w

/-! ## §3. The account of a descriptor. -/

/-- What handles own, what was written down and the condition of a descriptor
agree. -/
structure Account (d : Nat) (w : Workshop) (events : List Event) : Prop where
  /-- It is owned as long as a handle owns it. -/
  owner : w.host.condition? d = some .owned ↔ ∃ i, w.heldBy i = some d
  /-- No two handles own it. -/
  unique : ∀ i k, w.heldBy i = some d → w.heldBy k = some d → i = k
  /-- It was granted once, and came into the condition in which it is once. -/
  entered : ∀ c, events.count ⟨d, c⟩ =
    if (c = .owned ∧ (w.host.condition? d).isSome = true) ∨ w.host.condition? d = some c then 1
    else 0

theorem account_initial (d : Nat) : Account d initial [] where
  owner := by simp [Host.condition?, initial, Host.initial, heldBy]
  unique := by
    intro i k owns
    cases owns
  entered := by simp [Host.condition?, initial, Host.initial]

/-- A handle owns a descriptor only if it was granted. -/
theorem Account.lt_of_heldBy {d i : Nat} {w : Workshop} {events : List Event}
    (h : Account d w events) (owns : w.heldBy i = some d) : d < w.host.grants.length := by
  rw [← Host.condition?_isSome_iff, h.owner.mpr ⟨i, owns⟩]
  rfl

/-- Nothing is written down for a descriptor that was not granted. -/
theorem Account.lt_of_mem {d : Nat} {c : Condition} {w : Workshop} {events : List Event}
    (h : Account d w events) (written : ⟨d, c⟩ ∈ events) : d < w.host.grants.length := by
  have some := List.count_pos_iff.mpr written
  rw [h.entered] at some
  rw [← Host.condition?_isSome_iff]
  split at some
  next found =>
    rcases found with ⟨-, granted⟩ | is
    · exact granted
    · rw [is]
      rfl
  next => cases some

variable {d : Nat} {w w' : Workshop} {events events' : List Event}

/-- What does not touch a descriptor keeps its account. -/
theorem Account.other (h : Account d w events)
    (condition : w'.host.condition? d = w.host.condition? d)
    (held : ∀ k, w'.heldBy k = some d ↔ w.heldBy k = some d)
    (counts : ∀ c, events'.count ⟨d, c⟩ = events.count ⟨d, c⟩) : Account d w' events' where
  owner := by
    simp only [condition, held]
    exact h.owner
  unique := by
    simp only [held]
    exact h.unique
  entered := by
    simp only [condition, counts]
    exact h.entered

theorem count_concat (events : List Event) (e e' : Event) :
    (events ++ [e']).count e = events.count e + if e' = e then 1 else 0 := by
  rw [List.count_append, List.count_singleton]
  simp

/-- The next descriptor is granted to a job. -/
theorem Account.granted {i serviceId : Nat} {spec : InterfaceSpec} (h : Account d w events)
    (empty : w.heldBy i = none) (host : w'.host = (w.host.grant serviceId spec).2)
    (held : ∀ k, w'.heldBy k = if k = i then some w.host.grants.length else w.heldBy k) :
    Account d w' (events ++ [⟨w.host.grants.length, .owned⟩]) := by
  have condition := Host.condition?_grant d serviceId spec w.host
  rw [← host] at condition
  by_cases new : d = w.host.grants.length
  · -- nobody owned it before, and nothing was written down
    rw [if_pos new] at condition
    have unknown : w.host.condition? d = none := by
      rw [← Option.not_isSome_iff_eq_none, Host.condition?_isSome_iff]
      omega
    have alone : ∀ k, w'.heldBy k = some d → k = i := by
      intro k owns
      rw [held] at owns
      split at owns
      next same => exact same
      next =>
        have before := h.lt_of_heldBy owns
        omega
    refine ⟨?_, fun k k' owns owns' => (alone k owns).trans (alone k' owns').symm, fun c => ?_⟩
    · rw [condition]
      refine iff_of_true rfl ⟨i, ?_⟩
      rw [held, if_pos rfl, new]
    · rw [count_concat, h.entered, condition, unknown, new]
      simp [eq_comm]
  · rw [if_neg new] at condition
    refine h.other condition (fun k => ?_) fun c => ?_
    · rw [held]
      split
      next same =>
        rw [same, empty, Option.some.injEq]
        exact iff_of_false (Ne.symm new) nofun
      next => exact Iff.rfl
    · rw [count_concat, if_neg fun same => new (congrArg Event.descriptor same).symm, Nat.add_zero]

/-- A descriptor leaves its handle. -/
theorem Account.left {i e : Nat} {c : Condition} (h : Account d w events)
    (owner : w.heldBy i = some e) (gone : c ≠ .owned) (host : w'.host = w.host.settle e c)
    (held : ∀ k, w'.heldBy k = if k = i then none else w.heldBy k) :
    Account d w' (events ++ [⟨e, c⟩]) := by
  have condition := Host.condition?_settle d e c w.host
  rw [← host] at condition
  by_cases same : d = e
  · subst same
    have owned := h.owner.mpr ⟨i, owner⟩
    rw [if_pos rfl, owned, Option.map_some] at condition
    -- its only owner has lost it
    have nobody : ∀ k, w'.heldBy k ≠ some d := by
      intro k owns
      rw [held] at owns
      split at owns
      next => cases owns
      next other => exact other (h.unique k i owns owner)
    refine ⟨?_, fun k k' owns => absurd owns (nobody k), fun c' => ?_⟩
    · rw [condition, Option.some.injEq]
      exact iff_of_false gone fun ⟨k, owns⟩ => nobody k owns
    · rw [count_concat, h.entered, condition, owned]
      by_cases first : c' = .owned
      · simp [first, gone]
      · simp [first, Ne.symm first]
  · rw [if_neg same] at condition
    refine h.other condition (fun k => ?_) fun c' => ?_
    · rw [held]
      split
      next at_i =>
        rw [at_i, owner, Option.some.injEq]
        exact iff_of_false nofun (Ne.symm same)
      next => exact Iff.rfl
    · rw [count_concat, if_neg fun e => same (congrArg Event.descriptor e).symm, Nat.add_zero]

/-- **Every step keeps the account** when what it does is written down. -/
theorem Account.step (h : Account d w events) (s : Step) :
    Account d (w.step s) (events ++ (w.eventBy s).toList) := by
  have movement := step_movement s w
  cases event : w.eventBy s with
  | none =>
      rw [event] at movement
      rw [Option.toList_none, List.append_nil]
      cases movement with
      | none quiet =>
          refine h.other (congrArg (Host.condition? d) quiet.host) (fun k => ?_) fun _ => rfl
          rw [quiet.held]
  | some e =>
      rw [event] at movement
      rw [Option.toList_some]
      cases movement with
      | granted i serviceId spec empty host held => exact h.granted empty host held
      | left i d c owner way host held =>
          refine h.left owner ?_ host held
          rcases way with ⟨-, rfl⟩ | ⟨-, rfl⟩
          · exact nofun
          · exact nofun

/-! ## §4. Handles. -/

/-- **A handle owns its descriptor until it is detached or given up.** -/
theorem heldBy_step {i : Nat} {s : Step} (owns : w.heldBy i = some d) (kept : s ≠ .detachHandle i)
    (there : s ≠ .dropHandle i) : (w.step s).heldBy i = some d := by
  have movement := step_movement s w
  generalize w.eventBy s = event at movement
  cases movement with
  | none quiet => rw [quiet.held, owns]
  | granted k serviceId spec empty host held =>
      rw [held]
      split
      next same =>
        rw [← same, owns] at empty
        cases empty
      next => exact owns
  | left k e c owner way host held =>
      rw [held]
      split
      next same =>
        subst same
        rcases way with ⟨detaches, -⟩ | ⟨drops, -⟩
        · exact absurd detaches kept
        · exact absurd drops there
      next => exact owns

end Workshop

/-- The handle of a job owns nothing any more, or was given up. -/
def Job.IsReleased : Job → Prop
  | .established _ handle => handle.descriptor = none
  | .disposed _ => True
  | _ => False

theorem Job.Fate.released {generation : Nat} {j j' : Job} (fate : j.Fate generation j')
    (h : j.IsReleased) : j'.IsReleased := by
  cases fate with
  | kept => exact h
  | claimed => exact h.elim
  | gaveBack => exact h.elim
  | turned turn =>
      cases turn with
      | made => exact h.elim
      | edited => exact h.elim
      | declined => exact h.elim
      | granted => exact h.elim
      | refused => exact h.elim
      | detached b handle => exact handle.detach_descriptor _
      | disposed => exact trivial

namespace Workshop

/-- The job has a handle that owns nothing, or its handle was given up. -/
def Released (i : Nat) (w : Workshop) : Prop := ∃ j, w.jobs[i]? = some j ∧ j.IsReleased

/-- **A handle that owns nothing never owns anything again.** -/
theorem Released.change {w w' : Workshop} {i : Nat} (h : w.Released i) (step : Change w w') :
    w'.Released i := by
  obtain ⟨j, job, released⟩ := h
  obtain ⟨j', after, fate⟩ := step.job_of job
  exact ⟨j', after, fate.released released⟩

/-- A detach leaves a handle that owns nothing. -/
theorem detachHandle_released {w : Workshop} {i : Nat} {b : Builder} {handle : Handle}
    (job : w.jobs[i]? = some (.established b handle)) : (w.detachHandle i).Released i := by
  refine ⟨.established b (handle.detach w.host).2.1, ?_, handle.detach_descriptor w.host⟩
  unfold detachHandle
  simp only [job]
  have job' : { w with host := (handle.detach w.host).2.2 }.jobs[i]?
      = some (.established b handle) := job
  exact (getElem?_setJob job' _ i).trans (if_pos rfl)

end Workshop

end TunnelControl
