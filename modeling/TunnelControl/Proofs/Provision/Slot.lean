/-
  TunnelControl.Proofs.Provision.Slot
  ───────────────────────────────────
  **WHO IS ATTACHED, AND WHO DETACHED IT.**

  A call that detaches a service has seen it in the slot a while before it
  empties that, and another service may have come by then.  The record keeps
  what was attached, in order, and what was taken out: an id is given out once,
  so the service in the slot is the last of the record, and one that is not the
  last any more can no longer be taken out by anybody.

    • `look_cases`, `exchange_cases`, `step_movement` — what one step does,
    • `attachments`, `emptied`, `Standing` — the record of a run,
    • `run_standing`, `not_detached_run`  — runs,
    • `Goes`, `run_goes`, `run_detach`    — calls,
    • `step_frame`, `run_isWith`          — attempts and builders,
    • `Attends`, `services_leave_by_their_own_detach`.
-/
import Mathlib.Data.List.Induction
import TunnelControl.Proofs.Provision.Jobs
import TunnelControl.Provision.Reception

namespace TunnelControl.Reception

/-! ## §1. Steps. -/

/-- The number of services that were attached so far. -/
def issued (r : Reception) : Nat := r.workshop.provisioner.issued

/-- The call has detached the service of this id. -/
def Detached (i id : Nat) (r : Reception) : Prop := r.calls[i]? = some (.answered id true)

/-- The platform that a step attaches. -/
def Step.platform? : Step → Option Platform
  | .attach platform => some platform
  | _ => none

theorem getElem?_setCall {r : Reception} {i : Nat} {c : Detaching} (call : r.calls[i]? = some c)
    (c' : Detaching) (k : Nat) :
    (r.setCall i c').calls[k]? = if k = i then some c' else r.calls[k]? :=
  getElem?_set_of_some call c' k

/-- The slot holds the service of this id. -/
def Holds (id : Nat) (r : Reception) : Prop := ∃ s, r.slot = some s ∧ s.id = id

section

variable {r : Reception} {i id : Nat} {s seen : Service}

theorem look_idle (other : ∀ id, r.calls[i]? ≠ some (.called id)) : r.look i = r := by
  unfold look
  split
  next id call => exact absurd call (other id)
  next => rfl

theorem look_of_holds (call : r.calls[i]? = some (.called id)) (attached : r.slot = some s)
    (same : s.id = id) : r.look i = r.setCall i (.loaded s) := by
  have found : r.slot.filter (·.id = id) = some s :=
    Option.filter_eq_some_iff.mpr ⟨attached, by simpa using same⟩
  unfold look
  simp [call, found]

theorem look_of_other (call : r.calls[i]? = some (.called id)) (other : ¬ r.Holds id) :
    r.look i = r.setCall i (.answered id false) := by
  have nothing : r.slot.filter (·.id = id) = none :=
    Option.filter_eq_none_iff.mpr fun s attached => by
      simpa using fun same => other ⟨s, attached, same⟩
  unfold look
  simp [call, nothing]

theorem exchange_idle (other : ∀ seen, r.calls[i]? ≠ some (.loaded seen)) : r.exchange i = r := by
  unfold exchange
  split
  next seen call => exact absurd call (other seen)
  next => rfl

theorem exchange_of_holds (call : r.calls[i]? = some (.loaded seen)) (attached : r.slot = some s)
    (same : s.id = seen.id) :
    r.exchange i = (r.withProvisioner { r.workshop.provisioner with service := none }).setCall i
      (.answered seen.id true) := by
  have attached : r.workshop.provisioner.service = some s := attached
  unfold exchange Provisioner.exchange Provisioner.serviceId
  simp [call, attached, same]

theorem exchange_of_other (call : r.calls[i]? = some (.loaded seen)) (other : ¬ r.Holds seen.id) :
    r.exchange i = r.setCall i (.answered seen.id false) := by
  have other : ∀ s, r.workshop.provisioner.service = some s → s.id ≠ seen.id :=
    fun s attached same => other ⟨s, attached, same⟩
  unfold exchange Provisioner.exchange Provisioner.serviceId
  cases attached : r.workshop.provisioner.service with
  | none =>
      simp [call]
      rfl
  | some s =>
      simp [call, other s attached]
      rfl

/-- What a look does. -/
inductive Look (i : Nat) (r : Reception) : Reception → Prop where
  | idle : Look i r r
  | seen (id : Nat) (s : Service) (call : r.calls[i]? = some (.called id))
      (attached : r.slot = some s) (same : s.id = id) : Look i r (r.setCall i (.loaded s))
  | missed (id : Nat) (call : r.calls[i]? = some (.called id)) (other : ¬ r.Holds id) :
      Look i r (r.setCall i (.answered id false))

theorem look_cases (i : Nat) (r : Reception) : Look i r (r.look i) := by
  by_cases called : ∃ id, r.calls[i]? = some (.called id)
  · obtain ⟨id, call⟩ := called
    by_cases held : r.Holds id
    · obtain ⟨s, attached, same⟩ := held
      rw [look_of_holds call attached same]
      exact .seen id s call attached same
    · rw [look_of_other call held]
      exact .missed id call held
  · rw [look_idle fun id call => called ⟨id, call⟩]
    exact .idle

/-- What an exchange does. -/
inductive Exchange (i : Nat) (r : Reception) : Reception → Prop where
  | idle : Exchange i r r
  | emptied (seen s : Service) (call : r.calls[i]? = some (.loaded seen))
      (attached : r.slot = some s) (same : s.id = seen.id) :
      Exchange i r ((r.withProvisioner { r.workshop.provisioner with service := none }).setCall i
        (.answered seen.id true))
  | beaten (seen : Service) (call : r.calls[i]? = some (.loaded seen)) (other : ¬ r.Holds seen.id) :
      Exchange i r (r.setCall i (.answered seen.id false))

theorem exchange_cases (i : Nat) (r : Reception) : Exchange i r (r.exchange i) := by
  by_cases loaded : ∃ seen, r.calls[i]? = some (.loaded seen)
  · obtain ⟨seen, call⟩ := loaded
    by_cases held : r.Holds seen.id
    · obtain ⟨s, attached, same⟩ := held
      rw [exchange_of_holds call attached same]
      exact .emptied seen s call attached same
    · rw [exchange_of_other call held]
      exact .beaten seen call held
  · rw [exchange_idle fun seen call => loaded ⟨seen, call⟩]
    exact .idle

end

/-- The slot stays as it is, and nothing is detached. -/
structure Quiet (r r' : Reception) : Prop where
  slot : r'.slot = r.slot
  issued : r'.issued = r.issued
  detached : ∀ k id, r'.Detached k id ↔ r.Detached k id
  /-- A service that a call has seen was seen before, or is attached. -/
  seen : ∀ (k : Nat) (s : Service), r'.calls[k]? = some (.loaded s) →
    r.calls[k]? = some (.loaded s) ∨ r.slot = some s

theorem Quiet.refl (r : Reception) : Quiet r r :=
  ⟨rfl, rfl, fun _ _ => Iff.rfl, fun _ _ seen => .inl seen⟩

/-- A call comes further without detaching anything. -/
theorem Quiet.setCall {r : Reception} {i : Nat} {c c' : Detaching} (call : r.calls[i]? = some c)
    (before : ∀ id, c ≠ .answered id true) (after : ∀ id, c' ≠ .answered id true)
    (seen : ∀ s, c' = .loaded s → r.slot = some s) : Quiet r (r.setCall i c') where
  slot := rfl
  issued := rfl
  detached := by
    intro k id
    unfold Detached
    rw [getElem?_setCall call]
    split
    next same =>
      rw [same, call, Option.some.injEq, Option.some.injEq]
      exact iff_of_false (after id) (before id)
    next => exact Iff.rfl
  seen := by
    intro k s loaded
    rw [getElem?_setCall call] at loaded
    split at loaded
    next => exact .inr (seen s (Option.some.inj loaded))
    next => exact .inl loaded

/-- What a step does to the slot. -/
inductive Movement (r : Reception) : Step → Reception → Prop where
  | quiet {s : Step} {r' : Reception} (other : s.platform? = none) (quiet : Quiet r r') :
      Movement r s r'
  /-- A service comes. -/
  | attached {r' : Reception} (platform : Platform) (slot : r'.slot = some ⟨r.issued, platform⟩)
      (issued : r'.issued = r.issued + 1) (calls : r'.calls = r.calls) :
      Movement r (.attach platform) r'
  /-- The service that a call has seen goes. -/
  | emptied {r' : Reception} (i : Nat) (seen s : Service)
      (call : r.calls[i]? = some (.loaded seen)) (attached : r.slot = some s)
      (same : s.id = seen.id) (slot : r'.slot = none) (issued : r'.issued = r.issued)
      (calls : ∀ k, r'.calls[k]? =
        if k = i then some (.answered seen.id true) else r.calls[k]?) :
      Movement r (.exchange i) r'

theorem look_quiet (i : Nat) (r : Reception) : Quiet r (r.look i) := by
  have cases := look_cases i r
  generalize r.look i = r' at cases
  cases cases with
  | idle => exact .refl r
  | seen id s call attached same =>
      exact .setCall call nofun nofun fun s' e => Detaching.loaded.inj e ▸ attached
  | missed id call other => exact .setCall call nofun nofun nofun

/-- An exchange empties the slot if that still holds the service that was
seen. -/
theorem exchange_movement (i : Nat) (r : Reception) : Movement r (.exchange i) (r.exchange i) := by
  have cases := exchange_cases i r
  generalize r.exchange i = r' at cases
  cases cases with
  | idle => exact .quiet rfl (.refl r)
  | emptied seen s call attached same =>
      exact .emptied i seen s call attached same rfl rfl (getElem?_setCall call _)
  | beaten seen call other => exact .quiet rfl (.setCall call nofun nofun nofun)

/-- A call begins. -/
theorem call_quiet (id : Nat) (r : Reception) :
    Quiet r { r with calls := r.calls ++ [.called id] } := by
  refine ⟨rfl, rfl, fun k id' => ?_, fun k s loaded => .inl ?_⟩
  · show (r.calls ++ [_])[k]? = _ ↔ r.calls[k]? = _
    rw [getElem?_concat]
    split
    next new =>
      rw [new, List.getElem?_eq_none (Nat.le_refl _)]
      exact iff_of_false nofun nofun
    next => exact Iff.rfl
  · replace loaded : (r.calls ++ [_])[k]? = some (.loaded s) := loaded
    rw [getElem?_concat] at loaded
    split at loaded
    next => cases loaded
    next => exact loaded

/-- **Every step attaches a service, empties the slot, or leaves it alone.** -/
theorem step_movement (s : Step) (r : Reception) : Movement r s (r.step s) := by
  cases s with
  | attach platform => exact .attached platform rfl rfl rfl
  | call id => exact .quiet rfl (call_quiet id r)
  | look i => exact .quiet rfl (look_quiet i r)
  | exchange i => exact exchange_movement i r
  | work w =>
      obtain ⟨slot, issued⟩ := Workshop.step_slot w.isWork r.workshop
      exact .quiet rfl ⟨slot, issued, fun _ _ => Iff.rfl, fun _ _ seen => .inl seen⟩

/-! ## §2. The record of the slot. -/

/-- The services that a run attaches, in order; the number of a service is its
id. -/
def attachments (steps : List Step) : List Service :=
  (steps.filterMap Step.platform?).mapIdx Service.mk

theorem attachments_concat (steps : List Step) (s : Step) : attachments (steps ++ [s])
    = attachments steps ++ (s.platform?.map (Service.mk (attachments steps).length)).toList := by
  unfold attachments
  rw [List.filterMap_append, List.length_mapIdx]
  cases platform : s.platform? with
  | none => simp [platform]
  | some p => simp [platform, List.mapIdx_concat]

/-- The id of the service that a step takes out of the slot. -/
def emptiedBy (s : Step) (r : Reception) : Option Nat :=
  if (r.step s).slot.isNone then r.slot.map (·.id) else none

/-- What the steps of a run take out of the slot, in order. -/
def emptied : List Step → Reception → List (Step × Nat)
  | [], _ => []
  | s :: steps, r => (r.emptiedBy s).toList.map (Prod.mk s) ++ emptied steps (r.step s)

/-- What is in the slot, what was attached and what calls have detached agree. -/
structure Standing (as : List Service) (past : List (Step × Nat)) (r : Reception) : Prop where
  numbered : ∀ (k : Nat) (s : Service), as[k]? = some s → s.id = k
  issued : r.issued = as.length
  /-- The slot holds the service that came last, unless that was detached. -/
  slot : ∀ s, r.slot = some s ↔ as.getLast? = some s ∧ ∀ i, ¬ r.Detached i s.id
  /-- What a call has seen was attached. -/
  seen : ∀ (i : Nat) (s : Service), r.calls[i]? = some (.loaded s) → as[s.id]? = some s
  detached : ∀ i id, r.Detached i id → id < as.length
  /-- A service is detached by one call. -/
  once : ∀ i j id, r.Detached i id → r.Detached j id → i = j
  /-- The calls that detach are those whose exchange has emptied the slot. -/
  record : ∀ s id, (s, id) ∈ past ↔ ∃ i, s = .exchange i ∧ r.Detached i id

theorem standing_initial : Standing [] [] initial where
  numbered := nofun
  issued := rfl
  slot := fun _ => iff_of_false nofun fun h => nomatch h.1
  seen := nofun
  detached := nofun
  once := nofun
  record := fun _ _ => iff_of_false nofun fun ⟨_, _, detached⟩ => nomatch detached

variable {as : List Service} {past : List (Step × Nat)} {r r' : Reception}

/-- The service in the slot has the last number. -/
theorem Standing.id_of_slot (h : Standing as past r) {s : Service} (attached : r.slot = some s) :
    s.id + 1 = as.length ∧ as[s.id]? = some s := by
  have last := ((h.slot s).mp attached).1
  rw [List.getLast?_eq_getElem?] at last
  have within := (List.getElem?_eq_some_iff.mp last).1
  have number := h.numbered _ s last
  rw [number]
  exact ⟨by omega, last⟩

theorem Standing.quiet (h : Standing as past r) (q : Quiet r r') : Standing as past r' where
  numbered := h.numbered
  issued := q.issued.trans h.issued
  slot := by
    intro s
    rw [q.slot]
    simp only [q.detached]
    exact h.slot s
  seen := by
    intro i s loaded
    rcases q.seen i s loaded with before | attached
    · exact h.seen i s before
    · exact (h.id_of_slot attached).2
  detached := by
    simp only [q.detached]
    exact h.detached
  once := by
    simp only [q.detached]
    exact h.once
  record := by
    simp only [q.detached]
    exact h.record

/-- A service comes; nobody can have detached it before. -/
theorem Standing.attached {platform : Platform} (h : Standing as past r)
    (slot : r'.slot = some ⟨r.issued, platform⟩) (issued : r'.issued = r.issued + 1)
    (calls : r'.calls = r.calls) : Standing (as ++ [⟨as.length, platform⟩]) past r' := by
  have same (i id : Nat) : r'.Detached i id ↔ r.Detached i id := by
    unfold Detached
    rw [calls]
  rw [h.issued] at slot issued
  refine ⟨?_, ?_, ?_, ?_, ?_, ?_, ?_⟩
  · intro k s at_k
    rw [getElem?_concat] at at_k
    split at at_k
    next new =>
      cases at_k
      exact new.symm
    next => exact h.numbered k s at_k
  · rw [issued, List.length_append, List.length_singleton]
  · intro s
    rw [slot, List.getLast?_concat]
    refine ⟨?_, fun last => last.1⟩
    rintro ⟨⟩
    -- the id is new, and what was detached has an older one
    refine ⟨rfl, fun i detached => ?_⟩
    exact Nat.lt_irrefl _ (h.detached i _ ((same _ _).mp detached))
  · intro i s loaded
    rw [calls] at loaded
    have before := h.seen i s loaded
    have within := (List.getElem?_eq_some_iff.mp before).1
    rw [List.getElem?_append_left within, before]
  · intro i id detached
    have within := h.detached i id ((same i id).mp detached)
    rw [List.length_append]
    omega
  · simp only [same]
    exact h.once
  · simp only [same]
    exact h.record

/-- A call detaches the service in the slot; nobody has done so before. -/
theorem Standing.emptied {i : Nat} {seen s : Service} (h : Standing as past r)
    (call : r.calls[i]? = some (.loaded seen)) (attached : r.slot = some s)
    (same : s.id = seen.id) (slot : r'.slot = none) (issued : r'.issued = r.issued)
    (calls : ∀ k, r'.calls[k]? = if k = i then some (.answered seen.id true) else r.calls[k]?) :
    Standing as (past ++ [(.exchange i, s.id)]) r' := by
  obtain ⟨last, free⟩ := (h.slot s).mp attached
  rw [← same] at calls
  have now (k id : Nat) : r'.Detached k id ↔ r.Detached k id ∨ (k = i ∧ id = s.id) := by
    unfold Detached
    rw [calls]
    by_cases at_i : k = i
    · rw [if_pos at_i, at_i, call]
      simp [eq_comm]
    · rw [if_neg at_i]
      simp [at_i]
  refine ⟨h.numbered, issued.trans h.issued, ?_, ?_, ?_, ?_, ?_⟩
  · intro s'
    rw [slot]
    refine iff_of_false nofun ?_
    rintro ⟨last', nobody⟩
    -- the last service is the one that was just taken out
    cases last.symm.trans last'
    exact nobody i ((now i s.id).mpr (.inr ⟨rfl, rfl⟩))
  · intro k s' loaded
    rw [calls] at loaded
    split at loaded
    next => cases loaded
    next => exact h.seen k s' loaded
  · intro k id detached
    rcases (now k id).mp detached with before | ⟨-, rfl⟩
    · exact h.detached k id before
    · have := (h.id_of_slot attached).1
      omega
  · intro k k' id detached detached'
    -- the service was in the slot, so no earlier call has detached it
    rcases (now k id).mp detached with before | ⟨rfl, rfl⟩
    · rcases (now k' id).mp detached' with before' | ⟨rfl, rfl⟩
      · exact h.once k k' id before before'
      · exact absurd before (free k)
    · rcases (now k' _).mp detached' with before' | ⟨rfl, -⟩
      · exact absurd before' (free k')
      · rfl
  · intro s' id
    rw [List.mem_append, List.mem_singleton, h.record]
    simp only [now]
    constructor
    · rintro (⟨k, rfl, before⟩ | new)
      · exact ⟨k, rfl, .inl before⟩
      · cases new
        exact ⟨i, rfl, .inr ⟨rfl, rfl⟩⟩
    · rintro ⟨k, rfl, before | ⟨rfl, rfl⟩⟩
      · exact .inl ⟨k, rfl, before⟩
      · exact .inr rfl

/-- **Every step keeps the record** when what it does is written down. -/
theorem Standing.step (h : Standing as past r) (s : Step) :
    Standing (as ++ (s.platform?.map (Service.mk as.length)).toList)
      (past ++ (r.emptiedBy s).toList.map (Prod.mk s)) (r.step s) := by
  have movement := step_movement s r
  unfold emptiedBy
  generalize r.step s = r' at movement
  cases movement with
  | quiet other quiet =>
      rw [other, quiet.slot]
      have nothing : (if r.slot.isNone then r.slot.map (·.id) else none) = none := by
        cases r.slot <;> rfl
      rw [nothing]
      simpa using h.quiet quiet
  | attached platform slot issued calls =>
      rw [slot]
      simpa [Step.platform?] using h.attached slot issued calls
  | emptied i seen s call attached same slot issued calls =>
      rw [slot, attached]
      simpa [Step.platform?] using h.emptied call attached same slot issued calls

/-! ## §3. Runs. -/

@[simp] theorem run_nil (r : Reception) : r.run [] = r := rfl

@[simp] theorem run_cons (s : Step) (steps : List Step) (r : Reception) :
    r.run (s :: steps) = (r.step s).run steps := rfl

theorem run_append (before after : List Step) (r : Reception) :
    r.run (before ++ after) = (r.run before).run after := by
  simp only [run, List.foldl_append]

theorem emptied_append (before after : List Step) (r : Reception) :
    emptied (before ++ after) r
      = emptied before r ++ emptied after (r.run before) := by
  induction before generalizing r with
  | nil => rfl
  | cons s before ih =>
      rw [List.cons_append, emptied, ih, emptied, List.append_assoc]
      rfl

/-- **The record is in order after every run.** -/
theorem run_standing (steps : List Step) :
    Standing (attachments steps) (emptied steps initial) (initial.run steps) := by
  induction steps using List.reverseRecOn with
  | nil => exact standing_initial
  | append_singleton steps s ih =>
      rw [attachments_concat, emptied_append, run_append]
      simpa [emptied] using ih.step s

/-- A superseded service stays superseded, and calls that have not detached it
by then never do. -/
theorem not_detached_run {steps : List Step} {i id : Nat}
    (superseded : id + 1 < (attachments steps).length)
    (notYet : ¬ (initial.run steps).Detached i id) (more : List Step) :
    ¬ ((initial.run steps).run more).Detached i id := by
  induction more generalizing steps with
  | nil => exact notYet
  | cons s more ih =>
      have standing := run_standing steps
      have later : id + 1 < (attachments (steps ++ [s])).length := by
        rw [attachments_concat, List.length_append]
        omega
      have kept : ¬ (initial.run (steps ++ [s])).Detached i id := by
        rw [run_append]
        have movement := step_movement s (initial.run steps)
        show ¬ ((initial.run steps).step s).Detached i id
        generalize (initial.run steps).step s = r' at movement
        cases movement with
        | quiet other quiet => rwa [quiet.detached]
        | attached platform slot issued calls =>
            unfold Detached
            rwa [calls]
        | emptied k seen s call attached same slot issued calls =>
            -- only the last service can be detached now
            have last := (standing.id_of_slot attached).1
            unfold Detached
            rw [calls]
            split
            next =>
              intro detached
              cases detached
              omega
            next => exact notYet
      have rest := ih later kept
      rwa [run_append] at rest

/-! ## §4. Calls. -/

/-- What becomes of a call: its id stays, and so does its answer. -/
structure Goes (c c' : Detaching) : Prop where
  id : c'.id = c.id
  answer : ∀ id detached, c = .answered id detached → c' = c

theorem Goes.refl (c : Detaching) : Goes c c := ⟨rfl, fun _ _ _ => rfl⟩

theorem goes_setCall {r : Reception} {i k : Nat} {c c' old : Detaching}
    (call : r.calls[i]? = some old) (goes : Goes old c') (at_k : r.calls[k]? = some c) :
    ∃ c'', (r.setCall i c').calls[k]? = some c'' ∧ Goes c c'' := by
  rw [getElem?_setCall call]
  by_cases same : k = i
  · rw [same, call] at at_k
    cases at_k
    exact ⟨c', if_pos same, goes⟩
  · exact ⟨c, by rw [if_neg same, at_k], .refl c⟩

/-- **No call is taken away.** -/
theorem step_goes {r : Reception} {k : Nat} {c : Detaching} (call : r.calls[k]? = some c)
    (s : Step) : ∃ c', (r.step s).calls[k]? = some c' ∧ Goes c c' := by
  have stays : ∃ c', r.calls[k]? = some c' ∧ Goes c c' := ⟨c, call, .refl c⟩
  cases s with
  | attach platform => exact stays
  | work w => exact stays
  | call id =>
      refine ⟨c, ?_, .refl c⟩
      show (r.calls ++ [_])[k]? = some c
      rw [List.getElem?_append_left (List.getElem?_eq_some_iff.mp call).1, call]
  | look i =>
      show ∃ c', (r.look i).calls[k]? = some c' ∧ _
      have cases := look_cases i r
      generalize r.look i = r' at cases
      cases cases with
      | idle => exact stays
      | seen id s at_i attached same => exact goes_setCall at_i ⟨same, nofun⟩ call
      | missed id at_i other => exact goes_setCall at_i ⟨rfl, nofun⟩ call
  | exchange i =>
      show ∃ c', (r.exchange i).calls[k]? = some c' ∧ _
      have cases := exchange_cases i r
      generalize r.exchange i = r' at cases
      cases cases with
      | idle => exact stays
      | emptied seen s at_i attached same =>
          exact goes_setCall (r := r.withProvisioner _) at_i ⟨rfl, nofun⟩ call
      | beaten seen at_i other => exact goes_setCall at_i ⟨rfl, nofun⟩ call

theorem Goes.trans {c c' c'' : Detaching} (h : Goes c c') (h' : Goes c' c'') : Goes c c'' where
  id := h'.id.trans h.id
  answer := by
    intro id detached answered
    have same := h.answer id detached answered
    rw [same] at h'
    exact h'.answer id detached answered

theorem run_goes {r : Reception} {k : Nat} {c : Detaching} (call : r.calls[k]? = some c)
    (steps : List Step) : ∃ c', (r.run steps).calls[k]? = some c' ∧ Goes c c' := by
  induction steps generalizing r c with
  | nil => exact ⟨c, call, .refl c⟩
  | cons s steps ih =>
      obtain ⟨c', call', goes⟩ := step_goes call s
      obtain ⟨c'', call'', rest⟩ := ih call'
      exact ⟨c'', call'', goes.trans rest⟩

/-- A call sees the service of its id, or is answered. -/
theorem look_answers {r : Reception} {i id : Nat} (call : r.calls[i]? = some (.called id)) :
    (∃ s, r.slot = some s ∧ s.id = id ∧ (r.look i).calls[i]? = some (.loaded s))
      ∨ ((∀ s, r.slot = some s → s.id ≠ id)
        ∧ (r.look i).calls[i]? = some (.answered id false)) := by
  by_cases held : r.Holds id
  · obtain ⟨s, attached, same⟩ := held
    rw [look_of_holds call attached same]
    exact .inl ⟨s, attached, same, (getElem?_setCall call _ i).trans (if_pos rfl)⟩
  · rw [look_of_other call held]
    exact .inr ⟨fun s attached same => held ⟨s, attached, same⟩,
      (getElem?_setCall call _ i).trans (if_pos rfl)⟩

/-- **A call takes out the very service that it saw, or nothing.** -/
theorem Standing.exchange_answers (h : Standing as past r) {i : Nat} {seen : Service}
    (call : r.calls[i]? = some (.loaded seen)) :
    (r.slot = some seen ∧ (r.exchange i).slot = none
        ∧ (r.exchange i).calls[i]? = some (.answered seen.id true))
      ∨ ((∀ s, r.slot = some s → s.id ≠ seen.id) ∧ (r.exchange i).slot = r.slot
        ∧ (r.exchange i).calls[i]? = some (.answered seen.id false)) := by
  by_cases held : r.Holds seen.id
  · obtain ⟨s, attached, same⟩ := held
    -- an id stands for one service, so this is the one that was seen
    have at_id := (h.id_of_slot attached).2
    rw [same, h.seen i seen call] at at_id
    cases at_id
    rw [exchange_of_holds call attached rfl]
    exact .inl ⟨attached, rfl, (getElem?_setCall call _ i).trans (if_pos rfl)⟩
  · rw [exchange_of_other call held]
    exact .inr ⟨fun s attached same => held ⟨s, attached, same⟩, rfl,
      (getElem?_setCall call _ i).trans (if_pos rfl)⟩

/-- **A call for a service that is not the last leaves the slot alone.** -/
theorem Standing.slot_of_superseded (h : Standing as past r) {i : Nat} {c : Detaching}
    (call : r.calls[i]? = some c) (superseded : c.id + 1 < as.length) :
    (r.exchange i).slot = r.slot := by
  have cases := exchange_cases i r
  generalize r.exchange i = r' at cases
  cases cases with
  | idle => rfl
  | beaten seen call' other => rfl
  | emptied seen s call' attached same =>
      have last := (h.id_of_slot attached).1
      cases call.symm.trans call'
      have old : seen.id + 1 < as.length := superseded
      omega

/-- **With nothing in between, a call is `Provisioner.detach`.** -/
theorem run_detach (id : Nat) (r : Reception) :
    let p := r.workshop.provisioner
    r.run [.call id, .look r.calls.length, .exchange r.calls.length]
      = { workshop := { r.workshop with provisioner := (p.detach id).2 }
          calls := r.calls ++ [.answered id (p.detach id).1] } := by
  intro p
  let begun : Reception := { r with calls := r.calls ++ [.called id] }
  show (begun.look r.calls.length).exchange r.calls.length = _
  have call : begun.calls[r.calls.length]? = some (.called id) := List.getElem?_concat_length
  have last (c c' : Detaching) : (r.calls ++ [c]).set r.calls.length c' = r.calls ++ [c'] := by
    simp
  by_cases held : r.Holds id
  · obtain ⟨s, attached, rfl⟩ := held
    have detached : p.detach s.id = (true, { p with service := none }) := by
      have holds : p.serviceId = some s.id := congrArg (Option.map Service.id) attached
      unfold Provisioner.detach Provisioner.swapOut
      rw [if_pos holds, if_pos holds]
    rw [look_of_holds call attached rfl,
      exchange_of_holds ((getElem?_setCall call _ _).trans (if_pos rfl)) attached rfl, detached]
    show (⟨_, ((r.calls ++ [_]).set _ _).set _ _⟩ : Reception) = _
    rw [last, last]
    rfl
  · have missed : p.detach id = (false, p) :=
      if_neg fun holds => held (Option.map_eq_some_iff.mp holds)
    have answered : (begun.setCall r.calls.length (.answered id false)).calls[r.calls.length]?
        = some (.answered id false) := (getElem?_setCall call _ _).trans (if_pos rfl)
    rw [look_of_other call held, exchange_idle (by rw [answered]; exact nofun), missed]
    show (⟨_, (r.calls ++ [_]).set _ _⟩ : Reception) = _
    rw [last]

/-! ## §5. Attempts and builders. -/

/-- Attaching and detaching touch the slot and give out ids, and that is all. -/
theorem step_frame {s : Step} (other : ∀ w, s ≠ .work w) (r : Reception) :
    (r.step s).workshop = { r.workshop with
      provisioner := { r.workshop.provisioner with
        service := (r.step s).slot
        issued := (r.step s).issued } } := by
  cases s with
  | attach platform => rfl
  | call id => rfl
  | work w => exact absurd rfl (other w)
  | look i =>
      show (r.look i).workshop = { r.workshop with
        provisioner := { r.workshop.provisioner with
          service := (r.look i).slot, issued := (r.look i).issued } }
      have cases := look_cases i r
      generalize r.look i = r' at cases
      cases cases with
      | idle => rfl
      | seen => rfl
      | missed => rfl
  | exchange i =>
      show (r.exchange i).workshop = { r.workshop with
        provisioner := { r.workshop.provisioner with
          service := (r.exchange i).slot, issued := (r.exchange i).issued } }
      have cases := exchange_cases i r
      generalize r.exchange i = r' at cases
      cases cases with
      | idle => rfl
      | emptied => rfl
      | beaten => rfl

theorem step_change (s : Step) (r : Reception) : r.workshop.Change (r.step s).workshop := by
  by_cases work : ∃ w, s = .work w
  · obtain ⟨w, rfl⟩ := work
    exact Workshop.step_change w.step r.workshop
  · rw [step_frame (fun w same => work ⟨w, same⟩) r]
    exact .served _ _

end TunnelControl.Reception

namespace TunnelControl

/-- The service that a job was begun with. -/
def Job.service? : Job → Option Service
  | .opened s => some s
  | .described b => some b.service
  | .asked b => some b.service
  | .refused b _ => some b.service
  | .established b _ => some b.service
  | .disposed b => some b.service
  | .failed _ => none

/-- The job was begun with this service, or has failed. -/
def Job.IsWith (s : Service) (j : Job) : Prop := j.service? = some s ∨ ∃ e, j = .failed e

/-- **A job stays with its service**, whatever is attached by now. -/
theorem Job.Fate.isWith {generation : Nat} {j j' : Job} {s : Service}
    (fate : j.Fate generation j') (h : j.IsWith s) : j'.IsWith s := by
  rcases h with service | ⟨e, rfl⟩
  · cases fate with
    | kept => exact .inl service
    | claimed => exact .inl service
    | gaveBack b cause => exact .inr ⟨_, rfl⟩
    | turned turn =>
        cases turn with
        | declined b e => exact .inr ⟨e, rfl⟩
        | made => exact .inl service
        | edited => exact .inl service
        | granted => exact .inl service
        | refused => exact .inl service
        | detached => exact .inl service
        | disposed => exact .inl service
  · cases fate with
    | kept => exact .inr ⟨e, rfl⟩
    | turned turn => cases turn

namespace Reception

theorem run_isWith {r : Reception} {k : Nat} {j : Job} {s : Service}
    (job : r.workshop.jobs[k]? = some j) (service : j.IsWith s) (steps : List Step) :
    ∃ j', (r.run steps).workshop.jobs[k]? = some j' ∧ j'.IsWith s := by
  induction steps generalizing r j with
  | nil => exact ⟨j, job, service⟩
  | cons s steps ih =>
      obtain ⟨j', job', fate⟩ := (step_change s r).job_of job
      exact ih job' (fate.isWith service)

/-! ## §6. The main result. -/

/-- What the slot, the calls and the builders are after a run, and what they
come to from there. -/
structure Attends (steps : List Step) (r : Reception) : Prop where
  /-- The slot holds the service that was attached last, unless a call has
  detached that very one. -/
  slot : ∀ s, r.slot = some s ↔ (attachments steps).getLast? = some s
    ∧ ∀ i : Nat, r.calls[i]? ≠ some (.answered s.id true)
  /-- A call sees the service of its id, or is answered; -/
  look : ∀ i id : Nat, r.calls[i]? = some (.called id) →
    (∃ s, r.slot = some s ∧ s.id = id ∧ (r.step (.look i)).calls[i]? = some (.loaded s))
    ∨ ((∀ s, r.slot = some s → s.id ≠ id)
      ∧ (r.step (.look i)).calls[i]? = some (.answered id false))
  /-- then it takes out the service that it saw, or is answered and leaves what
  came in between. -/
  exchange : ∀ (i : Nat) (seen : Service), r.calls[i]? = some (.loaded seen) →
    (r.slot = some seen ∧ (r.step (.exchange i)).slot = none
      ∧ (r.step (.exchange i)).calls[i]? = some (.answered seen.id true))
    ∨ ((∀ s, r.slot = some s → s.id ≠ seen.id) ∧ (r.step (.exchange i)).slot = r.slot
      ∧ (r.step (.exchange i)).calls[i]? = some (.answered seen.id false))
  /-- No call is lost, and its answer is final. -/
  calls : ∀ (i : Nat) (c : Detaching), r.calls[i]? = some c →
    ∀ more, ∃ c', (r.run more).calls[i]? = some c' ∧ Goes c c'
  /-- A call for a service after which another one was attached leaves the slot
  alone, -/
  newer : ∀ (i : Nat) (c : Detaching), r.calls[i]? = some c →
    c.id + 1 < (attachments steps).length →
      (r.step (.look i)).slot = r.slot ∧ (r.step (.exchange i)).slot = r.slot
  /-- and its answer is no, unless it was given before that. -/
  superseded : ∀ i id : Nat, id + 1 < (attachments steps).length →
    r.calls[i]? ≠ some (.answered id true) →
      ∀ more detached, (r.run more).calls[i]? = some (.answered id detached) → detached = false
  /-- At most one call detaches a service, -/
  once : ∀ i j id : Nat, r.calls[i]? = some (.answered id true) →
    r.calls[j]? = some (.answered id true) → i = j
  /-- and that is the one whose exchange has emptied the slot of it. -/
  emptied : ∀ (s : Step) (id : Nat), (s, id) ∈ emptied steps initial ↔
    ∃ i : Nat, s = .exchange i ∧ r.calls[i]? = some (.answered id true)
  /-- With nothing in between, the steps of a call are `Provisioner.detach`. -/
  alone : ∀ id, r.run [.call id, .look r.calls.length, .exchange r.calls.length]
    = { workshop := { r.workshop with provisioner := (r.workshop.provisioner.detach id).2 }
        calls := r.calls ++ [.answered id (r.workshop.provisioner.detach id).1] }
  /-- Attaching and detaching change neither the attempt nor its claim, and
  nothing that is being built; -/
  attempt : ∀ s, (∀ w, s ≠ .work w) →
    (r.step s).workshop.provisioner.generation = r.workshop.provisioner.generation
    ∧ (r.step s).workshop.provisioner.claimed = r.workshop.provisioner.claimed
    ∧ (r.step s).workshop.jobs = r.workshop.jobs ∧ (r.step s).workshop.host = r.workshop.host
  /-- a builder stays with the service that it was begun with, to the end. -/
  builders : ∀ (k : Nat) (j : Job) (s : Service), r.workshop.jobs[k]? = some j →
    j.service? = some s → ∀ more, ∃ j', (r.run more).workshop.jobs[k]? = some j'
      ∧ (j'.service? = some s ∨ ∃ e, j' = .failed e)

/-- **The slot holds the latest service until a call for it empties it**, in
every order of all steps. -/
theorem services_leave_by_their_own_detach (steps : List Step) :
    Attends steps (initial.run steps) := by
  have standing := run_standing steps
  refine ⟨standing.slot, fun i id => look_answers, fun i seen => standing.exchange_answers, ?_, ?_,
    ?_, standing.once, standing.record, ?_, ?_, ?_⟩
  · intro i c call more
    exact run_goes call more
  · intro i c call superseded
    exact ⟨(look_quiet i _).slot, standing.slot_of_superseded call superseded⟩
  · intro i id superseded notYet more detached answered
    cases detached with
    | false => rfl
    | true => exact absurd answered (not_detached_run superseded notYet more)
  · intro id
    exact run_detach id _
  · intro s other
    rw [step_frame other]
    exact ⟨rfl, rfl, rfl, rfl⟩
  · intro k j s job service more
    exact run_isWith job (.inl service) more

/-- What comes in after the look is left alone by the exchange. -/
example (first second : Platform) :
    let r := initial.run [.attach first, .call 0, .look 0, .attach second, .exchange 0]
    (r.slot, r.calls) = (some ⟨1, second⟩, [.answered 0 false]) := rfl

end Reception

end TunnelControl
