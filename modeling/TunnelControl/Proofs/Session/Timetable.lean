/-
  TunnelControl.Proofs.Session.Timetable
  ──────────────────────────────────────
  **HOW MANY PULLS A CONNECTED PERIOD BEGINS ON TIME.**

  A loop begins its first pull when Connected is entered, and every further
  one an interval after the one before.  If no pull is passed over, and none
  lasts beyond the time of the next, then the number of pulls follows from the
  time alone, whatever else happens in the period.

    • `timerBegins`, `timerPulls` — the pulls that loops begin,
    • `nextPull?`, `punctual`     — no pull is passed over,
    • `Throughout`                — at every moment of a run,
    • `TimerStep`, `Change.timer` — a step begins the pull that is due, or none,
    • `tickTime`, `timetable`     — when the pulls of a period are due,
    • `OnTimetable`               — so many have begun, and the next is ahead,
    • `timer_pulls_follow_the_timetable`.
-/
import TunnelControl.Proofs.Session.PullSchedule

namespace TunnelControl.Coordinator

/-! ## §1. Pulls that loops begin. -/

/-- Between two states a loop has begun a pull: there is one of a loop that got
the next number. -/
def timerBegins (c c' : Coordinator) : Bool :=
  c'.pulls.any fun p => p.timed && p.number == c.started

/-- The number of pulls that loops begin in a run. -/
def timerPulls : List Action → Coordinator → Nat
  | [], _ => 0
  | a :: actions, c => (timerBegins c (c.act a)).toNat + timerPulls actions (c.act a)

theorem timerPulls_append (before after : List Action) (c : Coordinator) :
    c.timerPulls (before ++ after) = c.timerPulls before + (c.run before).timerPulls after := by
  induction before generalizing c with
  | nil => exact (Nat.zero_add _).symm
  | cons a before ih => rw [List.cons_append, timerPulls, ih, run_cons, timerPulls, Nat.add_assoc]

/-- Pulls under way have numbers of pulls that were started. -/
def Numbered (c : Coordinator) : Prop := ∀ p ∈ c.pulls, p.number < c.started

theorem run_numbered (interval : Nat) (actions : List Action) :
    Numbered ((start interval).run actions) := fun p listed =>
  (epochTells_of_carries interval actions (.inl ⟨p, listed, rfl, rfl⟩)).started

theorem timerBegins_of_timed {c c' : Coordinator} {loop epoch : Nat} {stage : PullStage}
    (begun : c'.pulls = c.pulls ++ [⟨c.started, loop, epoch, true, stage⟩]) :
    timerBegins c c' = true := by
  simp [timerBegins, begun]

/-- If every pull was there before, none has begun. -/
theorem Numbered.begins_none {c c' : Coordinator} (h : Numbered c)
    (old : ∀ p ∈ c'.pulls, ∃ q ∈ c.pulls, p.number = q.number) : timerBegins c c' = false := by
  refine List.any_eq_false.mpr fun p listed begun => ?_
  obtain ⟨q, listed', same⟩ := old p listed
  have earlier := h q listed'
  simp only [Bool.and_eq_true, beq_iff_eq] at begun
  omega

theorem Numbered.begins_none_of_eq {c c' : Coordinator} (h : Numbered c)
    (same : c'.pulls = c.pulls) : timerBegins c c' = false :=
  h.begins_none fun p listed => ⟨p, same ▸ listed, rfl⟩

theorem Numbered.begins_none_of_close {c c' : Coordinator} (h : Numbered c) (k : Nat) (p : Pull)
    (same : c'.pulls = (c.closePull k p).pulls) : timerBegins c c' = false := by
  refine h.begins_none fun q listed => ⟨q, ?_, rfl⟩
  rw [same] at listed
  exact List.mem_of_mem_eraseIdx listed

/-! ## §2. The next pull. -/

/-- The time at which the loop that polls is to begin its next pull. -/
def nextPull? (c : Coordinator) : Option Nat := c.poll.bind fun i => c.loops[i]?.bind fun l => l.due

/-- The next pull is to begin now. -/
def pullIsDue (c : Coordinator) : Bool := c.nextPull?.any fun t => t ≤ c.clock

/-- The step does not let time pass beyond the next pull. -/
def inTime (a : Action) (c : Coordinator) : Bool :=
  match a with
  | .advance ms => c.nextPull?.all fun t => c.clock + ms ≤ t
  | _ => true

/-- The run passes over no pull: each begins when it is due, so that the one
before it has ended by then. -/
def punctual : List Action → Coordinator → Bool
  | [], _ => true
  | a :: actions, c => c.inTime a && punctual actions (c.act a)

theorem nextPull?_of_loop {c : Coordinator} {i : Nat} {l : PollLoop} (poll : c.poll = some i)
    (loop : c.loops[i]? = some l) : c.nextPull? = l.due := by
  simp [nextPull?, poll, loop]

theorem due_of_isDue {l : PollLoop} {now : Nat} (due : isDue l now = true) :
    ∃ t, l.due = some t ∧ t ≤ now := by
  unfold isDue at due
  split at due
  next t time => exact ⟨t, time, by simp_all⟩
  next => simp at due

/-- A loop that starts is to pull at once. -/
theorem nextPull?_startPolling (c : Coordinator) : c.startPolling.nextPull? = some c.clock := by
  refine nextPull?_of_loop (l := ⟨c.stopPolling.epoch, false, some c.clock, false⟩) rfl ?_
  exact List.getElem?_concat_length

/-- A pull that ends leaves the time of the next one. -/
theorem nextPull?_closePull (k : Nat) (p : Pull) (c : Coordinator) :
    (c.closePull k p).nextPull? = c.nextPull? := by
  unfold nextPull? closePull
  dsimp only
  split
  next =>
    cases c.poll with
    | none => rfl
    | some i =>
        simp only [Option.bind_some, List.getElem?_modify]
        cases c.loops[i]? with
        | none => rfl
        | some l => by_cases own : p.loop = i <;> simp [own]
  next => rfl

/-! ## §3. Every moment of a run. -/

/-- At every moment of the run. -/
def Throughout (P : Coordinator → Prop) : List Action → Coordinator → Prop
  | [], c => P c
  | a :: actions, c => P c ∧ Throughout P actions (c.act a)

theorem Throughout.now {P : Coordinator → Prop} {actions : List Action} {c : Coordinator}
    (h : Throughout P actions c) : P c := by
  cases actions with
  | nil => exact h
  | cons => exact h.1

instance Throughout.decidable (P : Coordinator → Prop) [DecidablePred P] :
    ∀ actions c, Decidable (Throughout P actions c)
  | [], c => inferInstanceAs (Decidable (P c))
  | a :: actions, c =>
      have := Throughout.decidable P actions (c.act a)
      inferInstanceAs (Decidable (P c ∧ Throughout P actions (c.act a)))

instance : DecidablePred IsLive := fun c =>
  inferInstanceAs (Decidable (c.state.value = .connected ∧ c.stopped = false))

/-! ## §4. What one step does. -/

/-- A step begins no pull of a loop, and leaves the time of the next one as
long as polling goes on, or it begins the one that is due. -/
inductive TimerStep (c : Coordinator) : Coordinator → Prop where
  | waits (c' : Coordinator) (none : timerBegins c c' = false)
      (kept : IsLive c → IsLive c' → c'.nextPull? = c.nextPull?) : TimerStep c c'
  | pulls (i : Nat) (l : PollLoop) (loop : c.loops[i]? = some l) (live : l.cancelled = false)
      (due : isDue l c.clock = true) :
      TimerStep c
        ({ c with loops := c.loops.set i { l with busy := true, due := c.nextDue } }.startPull
          i l.epoch true .asked)

theorem publish_state (next : ConnectionState) (c : Coordinator) :
    (c.publish next).state.value = next := Channel.value_publishIfNew ..

theorem terminate_state (c : Coordinator) : c.terminate.state.value = .terminated :=
  Channel.value_publishIfNew ..

/-- A message begins no pull of a loop. -/
theorem Handling.timer {c c' : Coordinator} (numbered : Numbered c) (step : Handling c c') :
    timerBegins c c' = false ∧ (IsLive c → IsLive c' → c'.nextPull? = c.nextPull?) := by
  cases step with
  | quiet => exact ⟨numbered.begins_none_of_eq rfl, fun _ _ => rfl⟩
  | pulling i =>
      -- the pull that starts is not one of a loop
      refine ⟨?_, fun _ _ => rfl⟩
      have old : timerBegins c c = false := numbered.begins_none_of_eq rfl
      unfold timerBegins at old ⊢
      simp [startPull, old]
  | ending =>
      refine ⟨numbered.begins_none_of_eq rfl, fun _ now => ?_⟩
      rw [IsLive, terminate_state] at now
      cases now.1
  | leaving next isNot =>
      refine ⟨numbered.begins_none_of_eq rfl, fun _ now => ?_⟩
      rw [IsLive, publish_state] at now
      rw [now.1] at isNot
      cases isNot
  | entering next was =>
      refine ⟨numbered.begins_none_of_eq rfl, fun before _ => ?_⟩
      rw [before.1] at was
      cases was
  | staying => exact ⟨numbered.begins_none_of_eq rfl, fun _ _ => rfl⟩

/-- **A step begins the pull that is due, or none.** -/
theorem Change.timer {a : Action} {c c' : Coordinator} (numbered : Numbered c)
    (step : Change a c c') : TimerStep c c' := by
  cases step with
  | aside => exact .waits _ (numbered.begins_none_of_eq rfl) fun _ _ => rfl
  | sent => exact .waits _ (numbered.begins_none_of_eq rfl) fun _ _ => rfl
  | handled m rest =>
      have numbered' : Numbered { c with inbox := rest } := numbered
      have waits := (handle_handling m { c with inbox := rest }).timer numbered'
      exact .waits _ waits.1 waits.2
  | begun i l loop live due => exact .pulls i l loop live due
  | ended k p => exact .waits _ (numbered.begins_none_of_close k p rfl) fun _ _ =>
      nextPull?_closePull k p c
  | staged k p stage pull =>
      refine .waits _ (numbered.begins_none fun q listed => ?_) fun _ _ => rfl
      rcases List.mem_or_eq_of_mem_set listed with old | new
      · exact ⟨q, old, rfl⟩
      · exact ⟨p, List.mem_of_getElem? pull, new ▸ rfl⟩
  | reported k p => exact .waits _ (numbered.begins_none_of_close k p rfl) fun _ _ =>
      nextPull?_closePull k p c
  | stopped running =>
      refine .waits _ (numbered.begins_none_of_eq ?_) fun _ now => ?_
      · simp [shutdown, running, stopPolling]
      · have stopped := now.2
        simp [shutdown, running] at stopped

/-- A loop begins a pull only while the state is Connected and the work goes
on, and that remains so. -/
theorem TimerStep.isLive {c c' : Coordinator} (inv : PollingInv c) (step : TimerStep c c')
    (begins : timerBegins c c' = true) : IsLive c ∧ IsLive c' := by
  cases step with
  | waits _ none =>
      rw [none] at begins
      cases begins
  | pulls i l loop live =>
      have now : IsLive c := inv.isLive (inv.live i l loop live).1
      exact ⟨now, now⟩

theorem Handling.nextPull?_of_enters {c c' : Coordinator} (step : Handling c c')
    (was : c.state.value.isConnected = false) (now : c'.state.value.isConnected = true) :
    c'.nextPull? = some c'.clock := by
  cases step with
  | quiet => exact nomatch was.symm.trans now
  | pulling => exact nomatch was.symm.trans now
  | ending =>
      rw [terminate_state] at now
      cases now
  | leaving next isNot =>
      rw [publish_state, isNot] at now
      cases now
  | entering next => exact nextPull?_startPolling _
  | staying next same =>
      rw [publish_state, same, was] at now
      cases now

/-- **A step that enters Connected makes a pull due at once.** -/
theorem nextPull?_of_enters {a : Action} {c : Coordinator} (entered : c.enters a = true) :
    (c.act a).nextPull? = some (c.act a).clock := by
  have step := act_change a c
  unfold enters at entered
  generalize c.act a = c' at step entered
  rw [Bool.and_eq_true, Bool.not_eq_true'] at entered
  obtain ⟨was, now⟩ := entered
  rcases step.observed with ⟨state, -⟩ | ⟨m, rest, -, -, rfl⟩
  · rw [state, was] at now
    cases now
  · exact (handle_handling m { c with inbox := rest }).nextPull?_of_enters was now

/-! ## §5. The timetable of a period. -/

/-- When a period is to begin the pull that follows so many: at its entry, then
after each interval; with interval zero there is one pull only. -/
def tickTime (interval entry : Nat) : Nat → Option Nat
  | 0 => some entry
  | n + 1 => if interval = 0 then none else some (entry + (n + 1) * interval)

/-- The number of pulls that are due within a time from the entry, both its
ends included. -/
def timetable (interval elapsed : Nat) : Nat :=
  if interval = 0 then 1 else 1 + elapsed / interval

theorem tickTime_of_ne {interval : Nat} (repeated : interval ≠ 0) (entry n : Nat) :
    tickTime interval entry n = some (entry + n * interval) := by
  cases n with
  | zero => rw [Nat.zero_mul]; rfl
  | succ n => exact if_neg repeated

/-- After a pull that begins when it is due, the next one is due when the
timetable has it. -/
theorem tickTime_succ {interval entry n t : Nat} (due : tickTime interval entry n = some t) :
    tickTime interval entry (n + 1) = if interval = 0 then none else some (t + interval) := by
  by_cases once : interval = 0
  · rw [if_pos once]
    exact if_pos once
  · rw [tickTime_of_ne once] at due
    rw [tickTime_of_ne once, if_neg once, ← Option.some.inj due, Nat.add_mul, Nat.one_mul,
      Nat.add_assoc]

/-- The pulls up to a time between two that follow each other. -/
theorem timetable_between {interval n elapsed : Nat} (repeated : interval ≠ 0)
    (come : n * interval ≤ elapsed) (ahead : elapsed ≤ (n + 1) * interval) :
    timetable interval elapsed = n + 1 + (decide ((n + 1) * interval ≤ elapsed)).toNat := by
  rw [timetable, if_neg repeated, Nat.add_comm 1]
  by_cases due : (n + 1) * interval ≤ elapsed
  · have now : elapsed = (n + 1) * interval := Nat.le_antisymm ahead due
    rw [now, Nat.mul_div_cancel _ (Nat.pos_of_ne_zero repeated)]
    simp
  · rw [Nat.div_eq_of_lt_le come (Nat.lt_of_not_le due)]
    simp [due]

/-- So many pulls have begun in the period, each in its time, and the next one
is not passed over. -/
structure OnTimetable (interval entry n : Nat) (c : Coordinator) : Prop where
  /-- The time between two pulls. -/
  interval_eq : c.syncInterval = interval
  /-- The period has begun. -/
  entered : entry ≤ c.clock
  /-- The next pull is in the timetable. -/
  next : c.nextPull? = tickTime interval entry n
  /-- The times of the pulls that have begun have come. -/
  come : ∀ m < n, ∃ t, tickTime interval entry m = some t ∧ t ≤ c.clock
  /-- The time of the next pull is not over. -/
  ahead : ∀ t, tickTime interval entry n = some t → c.clock ≤ t

/-- **In a state on the timetable the time tells the number of pulls.** -/
theorem OnTimetable.count {interval entry n : Nat} {c : Coordinator}
    (h : OnTimetable interval entry n c) :
    n + c.pullIsDue.toNat = timetable interval (c.clock - entry) := by
  have entered := h.entered
  have next := h.next
  cases n with
  | zero =>
      -- the first pull has not begun: no time has passed since the entry
      have now : c.clock = entry := Nat.le_antisymm (h.ahead entry rfl) entered
      simp [pullIsDue, timetable, next, tickTime, now]
  | succ n =>
      obtain ⟨t, time, come⟩ := h.come n (Nat.lt_succ_self n)
      by_cases once : interval = 0
      · -- with one pull only, it is the first that has begun
        cases n with
        | zero => simp [pullIsDue, timetable, next, tickTime, once]
        | succ n =>
            rw [tickTime, if_pos once] at time
            cases time
      · rw [tickTime_of_ne once] at time next
        have ahead := h.ahead _ (tickTime_of_ne once entry (n + 1))
        have begun : entry + n * interval ≤ c.clock := Option.some.inj time ▸ come
        have come : n * interval ≤ c.clock - entry := by omega
        rw [timetable_between once come (by omega), pullIsDue, next, Option.any_some]
        congr 3
        exact propext (Nat.le_sub_iff_add_le' entered).symm

/-- Time passes, but not beyond the next pull. -/
theorem OnTimetable.advance {interval entry n ms : Nat} {c : Coordinator}
    (h : OnTimetable interval entry n c) (prompt : c.inTime (.advance ms) = true) :
    OnTimetable interval entry n (c.advance ms) where
  interval_eq := h.interval_eq
  entered := Nat.le_trans h.entered (Nat.le_add_right ..)
  next := h.next
  come := by
    intro m earlier
    obtain ⟨t, time, come⟩ := h.come m earlier
    exact ⟨t, time, Nat.le_trans come (Nat.le_add_right ..)⟩
  ahead := by
    intro t time
    rw [inTime, h.next, time] at prompt
    exact of_decide_eq_true prompt

/-- The time stands still, and no pull begins. -/
theorem OnTimetable.wait {interval entry n : Nat} {c c' : Coordinator}
    (h : OnTimetable interval entry n c) (same : SameTime c c')
    (kept : c'.nextPull? = c.nextPull?) : OnTimetable interval entry n c' where
  interval_eq := same.2.trans h.interval_eq
  entered := same.1 ▸ h.entered
  next := kept.trans h.next
  come := by
    rw [same.1]
    exact h.come
  ahead := by
    rw [same.1]
    exact h.ahead

/-- The time stands still, and the pull begins that is due. -/
theorem OnTimetable.pull {interval entry n t : Nat} {c c' : Coordinator}
    (h : OnTimetable interval entry n c) (same : SameTime c c') (due : c.nextPull? = some t)
    (reached : t ≤ c.clock) (next : c'.nextPull? = c.nextDue) :
    OnTimetable interval entry (n + 1) c' := by
  have time : tickTime interval entry n = some t := h.next.symm.trans due
  have now : c.clock = t := Nat.le_antisymm (h.ahead t time) reached
  have following : c.nextDue = tickTime interval entry (n + 1) := by
    rw [tickTime_succ time, nextDue, h.interval_eq, now]
  refine ⟨same.2.trans h.interval_eq, same.1 ▸ h.entered, next.trans following, ?_, ?_⟩
  · intro m earlier
    rw [same.1]
    rcases Nat.lt_succ_iff_lt_or_eq.mp earlier with before | last
    · exact h.come m before
    · subst last
      exact ⟨t, time, reached⟩
  · intro t' time'
    rw [same.1, now]
    rw [tickTime_succ time] at time'
    split at time'
    next => cases time'
    next =>
      cases time'
      exact Nat.le_add_right ..

/-- **A step keeps to the timetable**, as long as polling goes on and time does
not pass beyond the next pull. -/
theorem OnTimetable.act {interval entry n : Nat} {c : Coordinator} {a : Action}
    (h : OnTimetable interval entry n c) (inv : PollingInv c) (numbered : Numbered c)
    (before : IsLive c) (after : IsLive (c.act a)) (prompt : c.inTime a = true) :
    OnTimetable interval entry (n + (timerBegins c (c.act a)).toNat) (c.act a) := by
  rcases act_time a c with same | ⟨ms, rfl⟩
  · have step := (act_change a c).timer numbered
    generalize c.act a = c' at step same after
    cases step with
    | waits _ none kept =>
        rw [none]
        exact h.wait same (kept before after)
    | pulls i l loop live due =>
        have poll := (inv.live i l loop live).1
        obtain ⟨t, time, reached⟩ := due_of_isDue due
        rw [timerBegins_of_timed rfl]
        refine h.pull same ((nextPull?_of_loop poll loop).trans time) reached ?_
        refine nextPull?_of_loop (l := { l with busy := true, due := c.nextDue }) poll ?_
        exact List.getElem?_set_self (List.getElem?_eq_some_iff.mp loop).1
  · have none : timerBegins c (c.act (.advance ms)) = false := numbered.begins_none_of_eq rfl
    rw [none]
    exact h.advance prompt

/-! ## §6. Whole periods. -/

/-- The session comes to this state in a run. -/
def Reachable (interval : Nat) (c : Coordinator) : Prop :=
  ∃ actions, (start interval).run actions = c

section Reached

variable {interval : Nat} {c : Coordinator} (reached : Reachable interval c)

include reached

theorem Reachable.act (a : Action) : Reachable interval (c.act a) := by
  obtain ⟨past, rfl⟩ := reached
  exact ⟨past ++ [a], run_concat past a _⟩

theorem Reachable.run (actions : List Action) : Reachable interval (c.run actions) := by
  obtain ⟨past, rfl⟩ := reached
  exact ⟨past ++ actions, run_append past actions _⟩

theorem Reachable.pollingInv : PollingInv c := by
  obtain ⟨past, rfl⟩ := reached
  exact run_pollingInv interval past

theorem Reachable.numbered : Numbered c := by
  obtain ⟨past, rfl⟩ := reached
  exact run_numbered interval past

/-- The interval is the one the session was started with. -/
theorem Reachable.interval_eq : c.syncInterval = interval := by
  obtain ⟨past, rfl⟩ := reached
  refine run_induction (P := fun c => c.syncInterval = interval) (fun c a h => ?_) rfl past
  rcases act_time a c with same | ⟨ms, rfl⟩
  · exact same.2.trans h
  · exact h

/-- **A run within a period keeps to the timetable.** -/
theorem run_onTimetable {entry n : Nat} (during : List Action)
    (h : OnTimetable interval entry n c) (lasts : Throughout IsLive during c)
    (punctual : c.punctual during = true) :
    OnTimetable interval entry (n + c.timerPulls during) (c.run during) := by
  induction during generalizing n c with
  | nil => exact h
  | cons a during ih =>
      rw [Coordinator.punctual, Bool.and_eq_true] at punctual
      have next := h.act reached.pollingInv reached.numbered lasts.1 lasts.2.now punctual.1
      rw [timerPulls, ← Nat.add_assoc]
      exact ih (reached.act a) next lasts.2 punctual.2

/-- A period is on its timetable when it is entered. -/
theorem onTimetable_of_enters {a : Action} (entered : c.enters a = true) :
    OnTimetable interval (c.act a).clock 0 (c.act a) where
  interval_eq := (reached.act a).interval_eq
  entered := Nat.le_refl _
  next := nextPull?_of_enters entered
  come := fun _ earlier => nomatch earlier
  ahead := fun _ time => Nat.le_of_eq (Option.some.inj time)

/-- A step begins a pull of a loop only within a period. -/
theorem Reachable.isLive {a : Action} (begins : timerBegins c (c.act a) = true) :
    IsLive c ∧ IsLive (c.act a) :=
  ((act_change a c).timer reached.numbered).isLive reached.pollingInv begins

/-- **Outside the periods no loop begins a pull.** -/
theorem timerPulls_of_never (after : List Action)
    (never : Throughout (fun c => ¬ IsLive c) after c) : c.timerPulls after = 0 := by
  induction after generalizing c with
  | nil => rfl
  | cons a after ih =>
      have none : timerBegins c (c.act a) = false := by
        rw [← Bool.not_eq_true]
        exact fun begins => never.1 (reached.isLive begins).1
      rw [timerPulls, none, ih (reached.act a) never.2]
      rfl

end Reached

/-- **The number of pulls that loops begin in a Connected period follows from
the time alone**, whatever else happens in it.  At any moment of the period, if
no pull was passed over, the pulls that have begun, with the one that is due
now, are those of the timetable.  When Connected is left, or the work ended, no
further one begins until Connected is entered again; then it holds anew. -/
theorem timer_pulls_follow_the_timetable (interval : Nat) (before : List Action) (a : Action)
    (during : List Action) (entered : ((start interval).run before).enters a = true)
    (lasts : Throughout IsLive during (((start interval).run before).act a))
    (punctual : (((start interval).run before).act a).punctual during = true) :
    let entry := ((start interval).run before).act a
    let now := entry.run during
    entry.timerPulls during + now.pullIsDue.toNat = timetable interval (now.clock - entry.clock)
      ∧ ∀ b after, Throughout (fun c => ¬ IsLive c) after (now.act b) →
          entry.timerPulls (during ++ b :: after) = entry.timerPulls during := by
  intro entry now
  have past : Reachable interval ((start interval).run before) := ⟨before, rfl⟩
  have reached : Reachable interval now := (past.act a).run during
  constructor
  · have begins := onTimetable_of_enters past entered
    have holds := run_onTimetable (past.act a) during begins lasts punctual
    rw [Nat.zero_add] at holds
    exact holds.count
  · intro b after never
    have last : timerBegins now (now.act b) = false := by
      rw [← Bool.not_eq_true]
      exact fun begins => never.now (reached.isLive begins).2
    have none := timerPulls_of_never (reached.act b) after never
    rw [timerPulls_append, timerPulls, last, none]
    rfl

/-- The second period of a session with the interval five, while the pull of
the first one is still under way.  A pull fails, the state is named again, a
pull is requested, and the time passes in pieces: in nine milliseconds two
pulls begin on time.  Then Connected is left. -/
theorem second_period_follows_the_timetable :
    let before : List Action :=
      [.callback .connected, .handleNext, .beginTimed 0, .advance 3, .callback .registered,
        .handleNext, .advance 4, .callback .connected]
    let during : List Action :=
      [.beginTimed 1, .endPull 1 none, .report 1, .handleNext, .callback .connected, .handleNext,
        .request .refresh, .handleNext, .advance 2, .beginRefresh 1, .advance 3, .beginTimed 1,
        .advance 4, .callback .registered]
    let entry := ((start 5).run before).act .handleNext
    entry.clock = 7 ∧ (entry.run during).clock = 16 ∧ entry.timerPulls during = 2
      ∧ entry.timerPulls (during ++ .handleNext :: [.advance 50]) = 2 := by
  intro before during entry
  have entered : ((start 5).run before).enters .handleNext = true := by decide +kernel
  obtain ⟨count, stops⟩ := timer_pulls_follow_the_timetable 5 before .handleNext during entered
    (by decide +kernel) (by decide +kernel)
  have clocks : entry.clock = 7 ∧ (entry.run during).clock = 16 := by decide +kernel
  have waits : (entry.run during).pullIsDue = false := by decide +kernel
  have two : entry.timerPulls during = 2 := by
    rw [waits, clocks.1, clocks.2] at count
    exact Nat.add_right_cancel count
  exact ⟨clocks.1, clocks.2, two, (stops .handleNext [.advance 50] (by decide +kernel)).trans two⟩

/-- A session that is shut down stays in Connected and begins no more pulls,
and one that leaves Connected before its first pull has begun makes none. -/
theorem fewer_pulls_than_ticks :
    (let before : List Action := [.callback .connected]
     let during : List Action :=
       [.beginTimed 0, .endPull 0 none, .report 0, .handleNext, .shutdown, .advance 10000]
     let entry := ((start 5000).run before).act .handleNext
     ((start 5000).run before).enters .handleNext = true
       ∧ Throughout (fun c => c.state.value = .connected) during entry
       ∧ entry.punctual during = true ∧ (entry.run during).clock - entry.clock = 10000
       ∧ entry.timerPulls during = 1 ∧ timetable 5000 10000 = 3)
    ∧ (let before : List Action := [.callback .connected, .callback .terminated]
       let entry := ((start 5000).run before).act .handleNext
       ((start 5000).run before).enters .handleNext = true
         ∧ (entry.act .handleNext).state.value = .terminated
         ∧ entry.timerPulls [.handleNext] = 0 ∧ timetable 5000 0 = 1) := by
  decide +kernel

end TunnelControl.Coordinator
