/-
  TunnelControl.Proofs.Session.PullSchedule
  ─────────────────────────────────────────
  **PULLS END, AND THE NEXT ONES BEGIN.**

  The loop that polls is never stuck.  If it is free, its next pull is due
  within the interval; if it is not, it has a pull under way, and that comes
  to its end with any result, or with none, and frees the loop.

    • `exists_of_stopPolling`,
      `exists_of_closePull`          — the loops before a step that touches them,
    • `OnSchedule`, `run_onSchedule` — the next pull is due within the interval,
    • `act_time`                     — only `advance` moves the time,
    • `BusyPulls`, `run_busyPulls`   — a loop that is not free has a pull under way,
    • `toEnd`, `run_toEnd`           — a pull comes to its end with any snapshot,
    • `closePull_free`               — and frees its loop,
    • `advance_beginTimed`           — which begins the next one when it is due.
-/
import TunnelControl.Proofs.Session.PollLoops

namespace TunnelControl.Coordinator

/-! ## §1. Loops that are touched. -/

/-- A loop in a row of which one is changed, as it was before. -/
theorem exists_of_modify {loops : List PollLoop} {i k : Nat} {f : PollLoop → PollLoop}
    {l' : PollLoop} (loop' : (loops.modify i f)[k]? = some l') :
    ∃ l, loops[k]? = some l ∧ l' = if i = k then f l else l := by
  rw [List.getElem?_modify, Option.map_eq_map, Option.map_eq_some_iff] at loop'
  obtain ⟨l, loop, rfl⟩ := loop'
  exact ⟨l, loop, rfl⟩

/-- A loop that is told to end keeps the time of its next pull, and is as busy
as it was. -/
theorem exists_of_stopPolling {c : Coordinator} {i : Nat} {l' : PollLoop}
    (loop' : c.stopPolling.loops[i]? = some l') :
    ∃ l, c.loops[i]? = some l ∧ l'.due = l.due ∧ l'.busy = l.busy := by
  unfold stopPolling at loop'
  dsimp only at loop'
  split at loop'
  next =>
    obtain ⟨l, loop, rfl⟩ := exists_of_modify loop'
    refine ⟨l, loop, ?_⟩
    split <;> exact ⟨rfl, rfl⟩
  next => exact ⟨l', loop', rfl, rfl⟩

/-- A pull that ends leaves the times, and frees its loop alone. -/
theorem exists_of_closePull {c : Coordinator} {k : Nat} {p : Pull} {i : Nat} {l' : PollLoop}
    (loop' : (c.closePull k p).loops[i]? = some l') :
    ∃ l, c.loops[i]? = some l ∧ l'.due = l.due
      ∧ (l'.busy = true → l.busy = true ∧ ¬ (p.timed = true ∧ p.loop = i)) := by
  unfold closePull at loop'
  dsimp only at loop'
  split at loop'
  next =>
    obtain ⟨l, loop, rfl⟩ := exists_of_modify loop'
    refine ⟨l, loop, ?_⟩
    split
    next => exact ⟨rfl, fun busy => nomatch busy⟩
    next other => exact ⟨rfl, fun busy => ⟨busy, fun own => other own.2⟩⟩
  next untimed => exact ⟨l', loop', rfl, fun busy => ⟨busy, fun own => untimed own.1⟩⟩

/-! ## §2. The next pull. -/

/-- The next pull of every loop is due within the interval, unless there is to
be one pull only. -/
def OnSchedule (c : Coordinator) : Prop :=
  c.syncInterval ≠ 0 → ∀ l ∈ c.loops, ∃ t, l.due = some t ∧ t ≤ c.clock + c.syncInterval

/-- Every loop keeps the time of its next pull, or gets one: now for a loop that
starts, and after the interval for one that begins a pull. -/
def KeepsTimes (c c' : Coordinator) : Prop :=
  ∀ l' ∈ c'.loops, (∃ l ∈ c.loops, l'.due = l.due) ∨ l'.due = some c.clock ∨ l'.due = c.nextDue

theorem keepsTimes_of_eq {c c' : Coordinator} (same : c'.loops = c.loops) : KeepsTimes c c' := by
  intro l' listed
  rw [same] at listed
  exact .inl ⟨l', listed, rfl⟩

theorem keepsTimes_stopPolling (c : Coordinator) : KeepsTimes c c.stopPolling := by
  intro l' listed
  obtain ⟨i, loop'⟩ := List.mem_iff_getElem?.mp listed
  obtain ⟨l, loop, due, -⟩ := exists_of_stopPolling loop'
  exact .inl ⟨l, List.mem_of_getElem? loop, due⟩

theorem keepsTimes_closePull (k : Nat) (p : Pull) (c : Coordinator) :
    KeepsTimes c (c.closePull k p) := by
  intro l' listed
  obtain ⟨i, loop'⟩ := List.mem_iff_getElem?.mp listed
  obtain ⟨l, loop, due, -⟩ := exists_of_closePull loop'
  exact .inl ⟨l, List.mem_of_getElem? loop, due⟩

theorem Handling.keepsTimes {c c' : Coordinator} (step : Handling c c') : KeepsTimes c c' := by
  cases step with
  | quiet => exact keepsTimes_of_eq rfl
  | pulling => exact keepsTimes_of_eq rfl
  | ending => exact keepsTimes_stopPolling c
  | leaving next => exact keepsTimes_stopPolling c
  | entering next =>
      intro l' listed
      rcases List.mem_append.mp listed with old | new
      · exact keepsTimes_stopPolling c l' old
      · rw [List.mem_singleton] at new
        subst new
        exact .inr (.inl rfl)
  | staying next => exact keepsTimes_of_eq rfl

theorem Change.keepsTimes {a : Action} {c c' : Coordinator} (step : Change a c c') :
    KeepsTimes c c' := by
  cases step with
  | aside => exact keepsTimes_of_eq rfl
  | sent => exact keepsTimes_of_eq rfl
  | handled m rest => exact (handle_handling m { c with inbox := rest }).keepsTimes
  | begun i l loop =>
      intro l' listed
      rcases List.mem_or_eq_of_mem_set listed with old | new
      · exact .inl ⟨l', old, rfl⟩
      · subst new
        exact .inr (.inr rfl)
  | ended i p => exact keepsTimes_closePull i p c
  | staged => exact keepsTimes_of_eq rfl
  | reported i p => exact keepsTimes_closePull i p c
  | stopped running =>
      intro l' listed
      simp only [shutdown, running, Bool.false_eq_true, if_false] at listed
      obtain ⟨l, stopped, rfl⟩ := List.mem_map.mp listed
      exact keepsTimes_stopPolling c l stopped

/-- The two keep one time, and one interval. -/
def SameTime (c c' : Coordinator) : Prop := c'.clock = c.clock ∧ c'.syncInterval = c.syncInterval

theorem sameTime_send (m : Message) (c : Coordinator) : SameTime c (c.send m) := by
  rw [send_eq]
  exact ⟨rfl, rfl⟩

theorem Handling.sameTime {c c' : Coordinator} (step : Handling c c') : SameTime c c' := by
  cases step <;> exact ⟨rfl, rfl⟩

/-- Only `advance` moves the time, and nothing the interval. -/
theorem act_time (a : Action) (c : Coordinator) :
    SameTime c (c.act a) ∨ ∃ ms, a = .advance ms := by
  cases a with
  | advance ms => exact .inr ⟨ms, rfl⟩
  | callback cb => exact .inl (sameTime_send _ c)
  | request r =>
      left
      show SameTime c (c.submit r).2
      unfold submit
      split
      next => exact ⟨rfl, rfl⟩
      next =>
        split
        next => exact ⟨rfl, rfl⟩
        next => exact sameTime_send _ c
  | handleNext =>
      left
      cases next : c.inbox with
      | nil =>
          rw [handleNext_nil next]
          exact ⟨rfl, rfl⟩
      | cons m rest =>
          rw [handleNext_cons next]
          exact (handle_handling m { c with inbox := rest }).sameTime
  | beginTimed i =>
      left
      show SameTime c (c.beginTimed i)
      unfold beginTimed
      repeat' split
      all_goals exact ⟨rfl, rfl⟩
  | beginRefresh i =>
      left
      show SameTime c (c.beginRefresh i)
      unfold beginRefresh
      repeat' split
      all_goals exact ⟨rfl, rfl⟩
  | endPull i s =>
      left
      show SameTime c (c.endPull i s)
      unfold endPull
      repeat' split
      all_goals exact ⟨rfl, rfl⟩
  | report i =>
      left
      show SameTime c (c.report i)
      unfold report
      split
      next => exact ⟨rfl, rfl⟩
      next p _ =>
        split
        next => exact sameTime_send _ (c.closePull i p)
        next => exact ⟨rfl, rfl⟩
  | callNext outcome =>
      left
      rw [act, callNext_eq]
      exact ⟨rfl, rfl⟩
  | endWorker => exact .inl ⟨rfl, rfl⟩
  | shutdown =>
      left
      show SameTime c c.shutdown
      unfold shutdown
      split <;> exact ⟨rfl, rfl⟩
  | dropHandle => exact .inl ⟨rfl, rfl⟩

theorem act_onSchedule {c : Coordinator} (h : OnSchedule c) (a : Action) :
    OnSchedule (c.act a) := by
  have times := (act_change a c).keepsTimes
  -- what was due within the interval is so at a later time
  have later : c.clock ≤ (c.act a).clock ∧ (c.act a).syncInterval = c.syncInterval := by
    rcases act_time a c with same | ⟨ms, rfl⟩
    · exact ⟨Nat.le_of_eq same.1.symm, same.2⟩
    · exact ⟨Nat.le_add_right .., rfl⟩
  obtain ⟨passed, interval⟩ := later
  intro repeated l' listed
  rw [interval] at repeated ⊢
  rcases times l' listed with ⟨l, old, due⟩ | now | next
  · obtain ⟨t, was, within⟩ := h repeated l old
    exact ⟨t, due.trans was, by omega⟩
  · exact ⟨c.clock, now, by omega⟩
  · rw [nextDue, if_neg repeated] at next
    exact ⟨_, next, by omega⟩

theorem run_onSchedule (interval : Nat) (actions : List Action) :
    OnSchedule ((start interval).run actions) := by
  refine run_induction (P := OnSchedule) (fun c a h => act_onSchedule h a) ?_ actions
  intro _ l listed
  cases listed

/-! ## §3. A loop that is not free has a pull under way. -/

/-- A pull under way was begun by this loop on time. -/
def PullsFor (i : Nat) (c : Coordinator) : Prop := ∃ p ∈ c.pulls, p.loop = i ∧ p.timed = true

/-- Every loop that is not free has a pull under way. -/
def BusyPulls (c : Coordinator) : Prop :=
  ∀ i l, c.loops[i]? = some l → l.busy = true → c.PullsFor i

/-- The loops that are not free in the second row are not free in the first. -/
def NoneBusier (ls ls' : List PollLoop) : Prop :=
  ∀ (i : Nat) (l' : PollLoop), ls'[i]? = some l' → l'.busy = true →
    ∃ l, ls[i]? = some l ∧ l.busy = true

theorem noneBusier_refl (ls : List PollLoop) : NoneBusier ls ls :=
  fun _ l loop busy => ⟨l, loop, busy⟩

theorem BusyPulls.of_noneBusier {c c' : Coordinator} (h : BusyPulls c)
    (loops : NoneBusier c.loops c'.loops) (pulls : ∀ i, c.PullsFor i → c'.PullsFor i) :
    BusyPulls c' := by
  intro i l' loop' busy'
  obtain ⟨l, loop, busy⟩ := loops i l' loop' busy'
  exact pulls i (h i l loop busy)

theorem noneBusier_stopPolling (c : Coordinator) : NoneBusier c.loops c.stopPolling.loops := by
  intro i l' loop' busy'
  obtain ⟨l, loop, -, same⟩ := exists_of_stopPolling loop'
  exact ⟨l, loop, same.symm.trans busy'⟩

/-- A pull that ends frees its loop; the others have theirs still. -/
theorem BusyPulls.closePull {c : Coordinator} (h : BusyPulls c) {k : Nat} {p : Pull}
    (pull : c.pulls[k]? = some p) : BusyPulls (c.closePull k p) := by
  intro i l' loop' busy'
  obtain ⟨l, loop, -, before⟩ := exists_of_closePull loop'
  obtain ⟨busy, other⟩ := before busy'
  obtain ⟨q, listed, own, timed⟩ := h i l loop busy
  -- its pull is another one than the one that ends, whose loop is free
  refine ⟨q, ?_, own, timed⟩
  obtain ⟨m, found⟩ := List.mem_iff_getElem?.mp listed
  refine List.mem_eraseIdx_iff_getElem?.mpr ⟨m, ?_, found⟩
  rintro rfl
  rw [pull] at found
  cases found
  exact other ⟨timed, own⟩

theorem BusyPulls.handling {c c' : Coordinator} (h : BusyPulls c) (step : Handling c c') :
    BusyPulls c' := by
  cases step with
  | quiet => exact h
  | pulling =>
      refine h.of_noneBusier (noneBusier_refl c.loops) ?_
      rintro i ⟨p, listed, own⟩
      exact ⟨p, List.mem_append_left _ listed, own⟩
  | ending => exact h.of_noneBusier (noneBusier_stopPolling c) fun _ own => own
  | leaving next => exact h.of_noneBusier (noneBusier_stopPolling c) fun _ own => own
  | entering next =>
      refine h.of_noneBusier ?_ fun _ own => own
      intro i l' loop' busy'
      -- the loop that starts is free
      simp only [startPolling] at loop'
      rw [List.getElem?_append] at loop'
      split at loop'
      next => exact noneBusier_stopPolling c i l' loop' busy'
      next =>
        rw [List.getElem?_singleton] at loop'
        split at loop'
        next =>
          cases loop'
          cases busy'
        next => cases loop'
  | staying next => exact h

theorem BusyPulls.change {a : Action} {c c' : Coordinator} (h : BusyPulls c)
    (step : Change a c c') : BusyPulls c' := by
  cases step with
  | aside => exact h
  | sent => exact h
  | handled m rest =>
      have h' : BusyPulls { c with inbox := rest } := h
      exact h'.handling (handle_handling m _)
  | begun i l loop =>
      intro k l' loop' busy'
      by_cases own : i = k
      · subst own
        exact ⟨_, List.mem_append_right _ (List.mem_singleton.mpr rfl), rfl, rfl⟩
      · have loop : c.loops[k]? = some l' := (List.getElem?_set_ne own).symm.trans loop'
        obtain ⟨p, listed, own⟩ := h k l' loop busy'
        exact ⟨p, List.mem_append_left _ listed, own⟩
  | ended i p pull => exact h.closePull pull
  | staged k p stage pull =>
      refine h.of_noneBusier (noneBusier_refl c.loops) ?_
      rintro i ⟨q, listed, own⟩
      obtain ⟨m, found⟩ := List.mem_iff_getElem?.mp listed
      by_cases same : k = m
      · subst same
        rw [pull] at found
        cases found
        have within := (List.getElem?_eq_some_iff.mp pull).1
        exact ⟨_, List.mem_of_getElem? (List.getElem?_set_self within), own⟩
      · exact ⟨q, List.mem_of_getElem? ((List.getElem?_set_ne same).trans found), own⟩
  | reported k p _ pull => exact h.closePull pull
  | stopped running =>
      refine h.of_noneBusier ?_ ?_
      · intro i l' loop' busy'
        simp only [shutdown, running, Bool.false_eq_true, if_false] at loop'
        rw [List.getElem?_map, Option.map_eq_some_iff] at loop'
        obtain ⟨l, loop, rfl⟩ := loop'
        exact noneBusier_stopPolling c i l loop busy'
      · simp only [shutdown, running, Bool.false_eq_true, if_false]
        exact fun _ own => own

theorem run_busyPulls (interval : Nat) (actions : List Action) :
    BusyPulls ((start interval).run actions) := by
  refine run_induction (P := BusyPulls) (fun c a h => h.change (act_change a c)) ?_ actions
  intro i l loop
  cases loop

/-! ## §4. How a pull ends, and how one begins. -/

/-- The steps of a pull to its end. -/
def toEnd (k : Nat) (s : Option Snapshot) : List Action :=
  [.beginRefresh k, .endPull k s, .report k]

/-- The result of a pull, unless it has one, is the snapshot it is given. -/
def resultOr (p : Pull) (s : Option Snapshot) : Option Snapshot :=
  match p.stage with
  | .answered result => result
  | _ => s

/-- The pull at this position has come to a stage. -/
def bring (k : Nat) (p : Pull) (stage : PullStage) (c : Coordinator) : Coordinator :=
  { c with pulls := c.pulls.set k { p with stage := stage } }

theorem bring_pull {c : Coordinator} {k : Nat} {p : Pull} (pull : c.pulls[k]? = some p)
    (stage : PullStage) : (c.bring k p stage).pulls[k]? = some { p with stage := stage } :=
  List.getElem?_set_self (List.getElem?_eq_some_iff.mp pull).1

/-- A pull is taken out alike in whichever stage it was. -/
theorem closePull_bring (c : Coordinator) (k : Nat) (p : Pull) (stage : PullStage) :
    (c.bring k p stage).closePull k { p with stage := stage } = c.closePull k p := by
  simp [closePull, bring, List.eraseIdx_set_eq]

section Ending

variable {c : Coordinator} {k : Nat} {p : Pull} (pull : c.pulls[k]? = some p)

include pull

theorem report_answered {s : Option Snapshot} (answered : p.stage = .answered s)
    (running : c.stopped = false) :
    c.run [.report k] = { c.closePull k p with
      inbox := c.inbox ++ [.pulled p.number p.epoch s] } := by
  have reported : c.report k = (c.closePull k p).send (.pulled p.number p.epoch s) := by
    simp [report, pull, answered]
  have takes : ¬ (c.closePull k p).stopped = true := by simp [closePull, running]
  rw [run_cons, run_nil, act, reported, send, if_neg takes]
  rfl

theorem endPull_report (asked : p.stage = .asked) (live : c.loopCancelled p.loop = false)
    (running : c.stopped = false) (s : Option Snapshot) :
    c.run [.endPull k s, .report k] = { c.closePull k p with
      inbox := c.inbox ++ [.pulled p.number p.epoch s] } := by
  have answered : c.act (.endPull k s) = c.bring k p (.answered s) := by
    simp [act, endPull, pull, asked, live, bring]
  rw [run_cons, answered, report_answered (bring_pull pull _) rfl running, closePull_bring]
  rfl

/-- **A pull comes to its end with any snapshot, or with none**: its result goes
into the queue. -/
theorem run_toEnd (live : c.loopCancelled p.loop = false) (running : c.stopped = false)
    (s : Option Snapshot) :
    c.run (toEnd k s) = { c.closePull k p with
      inbox := c.inbox ++ [.pulled p.number p.epoch (resultOr p s)] } := by
  rw [toEnd, run_cons]
  -- by the stage it is in; the steps that it has behind it do nothing
  cases stage : p.stage with
  | waiting =>
      have asked : c.act (.beginRefresh k) = c.bring k p .asked := by
        simp [act, beginRefresh, pull, stage, live, bring]
      rw [asked, endPull_report (bring_pull pull _) rfl live running, closePull_bring, resultOr,
        stage]
      rfl
  | asked =>
      have same : c.act (.beginRefresh k) = c := by simp [act, beginRefresh, pull, stage]
      rw [same, endPull_report pull stage live running, resultOr, stage]
  | answered result =>
      have same : c.act (.beginRefresh k) = c := by simp [act, beginRefresh, pull, stage]
      have same' : c.act (.endPull k s) = c := by simp [act, endPull, pull, stage]
      rw [same, run_cons, same', report_answered pull stage running, resultOr, stage]

end Ending

/-- The loop of a pull that has ended is free, if it began the pull. -/
theorem closePull_free {c : Coordinator} (k : Nat) {p : Pull} (timed : p.timed = true)
    (live : c.loopCancelled p.loop = false) :
    ∃ l, (c.closePull k p).loops[p.loop]? = some l ∧ l.busy = false := by
  unfold loopCancelled at live
  split at live
  next l loop =>
    refine ⟨{ l with busy := false }, ?_, rfl⟩
    simp [closePull, timed, loop]
  next => cases live

theorem beginTimed_due {c : Coordinator} {i : Nat} {l : PollLoop} (loop : c.loops[i]? = some l)
    (due : isDue l c.clock = true) :
    (c.beginTimed i).pulls = c.pulls ++ [⟨c.started, i, l.epoch, true, .asked⟩] := by
  simp only [beginTimed, loop, due, if_true]
  rfl

/-- **A free loop begins its pull when it is due**, in its epoch. -/
theorem advance_beginTimed {c : Coordinator} {i t : Nat} {l : PollLoop}
    (loop : c.loops[i]? = some l) (live : l.cancelled = false) (free : l.busy = false)
    (due : l.due = some t) {ms : Nat} (reached : t ≤ c.clock + ms) :
    (c.run [.advance ms, .beginTimed i]).pulls
      = c.pulls ++ [⟨c.started, i, l.epoch, true, .asked⟩] := by
  have loop' : (c.advance ms).loops[i]? = some l := loop
  have ready : isDue l (c.advance ms).clock = true := by
    simp [isDue, live, free, due, advance, reached]
  exact beginTimed_due loop' ready

end TunnelControl.Coordinator
