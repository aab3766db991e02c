/-
  TunnelControl.Proofs.View.Watching
  ──────────────────────────────────
  **OBSERVERS MAY SKIP VALUES, AND NEVER MISS THE LAST ONE.**

  Each publication in a view has a number, and an observer knows the number of
  the last one that it has seen.  If there is a later one, the latest of all is
  what it gets next; what came in between it never gets, and nothing twice.
  Other observers and other views make no difference to it.

    • `channel_write`, `publication?_publish`, … — what a write does to a view,
    • `step_view`, `step_way`              — and a step to a view and one observer,
    • `received_sublist`                   — what is got is some of what is published,
    • `Seen`, `run_seen`                   — what an observer has got and seen,
    • `IsUpToDate`, `run_quiet`            — when nothing more is written,
    • `handle_display`, `run_display`      — the writes of a session,
    • `Display.PublishesWrites`, `Watching.Follows`, `observers_get_the_latest`.
-/
import TunnelControl.Proofs.Session.Steps
import TunnelControl.Proofs.View.Changes
import TunnelControl.Proofs.View.Snapshots
import TunnelControl.Session.Watching

namespace TunnelControl

/-! ## §1. Writes. -/

namespace Display

/-- A write leaves a view alone or writes one value. -/
theorem channel_write (v : View) (w : Write) (d : Display) :
    (d.write w).channel v = d.channel v ∨ ∃ a, (d.write w).channel v = (d.channel v).publish a := by
  cases w with
  | publish next =>
      cases v with
      | state =>
          show d.state.publishIfNew next = d.state ∨ ∃ a, d.state.publishIfNew next = d.state.publish a
          unfold Channel.publishIfNew
          split
          next => exact .inl rfl
          next => exact .inr ⟨next, rfl⟩
      | peers => exact .inl rfl
      | status => exact .inl rfl
  | apply now snapshot =>
      cases v with
      | state => exact .inl rfl
      | peers =>
          cases snapshot with
          | peers ps => exact .inr ⟨canonicalize ps, rfl⟩
          | status s => exact .inl rfl
          | both s ps => exact .inr ⟨canonicalize ps, rfl⟩
      | status =>
          cases snapshot with
          | peers ps => exact .inl rfl
          | status s => exact .inr ⟨some (Views.canonicalStatus s), rfl⟩
          | both s ps => exact .inr ⟨some (Views.canonicalStatus s), rfl⟩
  | clear =>
      cases v with
      | state => exact .inl rfl
      | peers => exact .inr ⟨([] : List Wire.Peer), rfl⟩
      | status => exact .inr ⟨(none : Option Wire.Status), rfl⟩

theorem publication?_eq_none {v : View} {w : Write} {d : Display}
    (same : (d.write w).channel v = d.channel v) : d.publication? v w = none := by
  unfold publication?
  rw [same]
  exact if_pos rfl

theorem publication?_of_publish {v : View} {w : Write} {d : Display} {a : v.Value}
    (writes : (d.write w).channel v = (d.channel v).publish a) :
    d.publication? v w = some ((d.channel v).version + 1, a) := by
  unfold publication?
  rw [writes]
  exact if_neg (Nat.succ_ne_self _)

/-- A state is published exactly if it is another one. -/
theorem publication?_publish (next : ConnectionState) (d : Display) :
    d.publication? .state (.publish next)
      = if d.state.value = next then none else some (d.state.version + 1, next) := by
  split
  next same => exact publication?_eq_none (if_pos same)
  next other => exact publication?_of_publish (if_neg other)

/-- A snapshot publishes the peers if it has some, the same ones or not. -/
theorem publication?_apply_peers (now : Nat) (s : Snapshot) (d : Display) :
    d.publication? .peers (.apply now s)
      = s.peerList?.map fun ps => (d.views.peers.version + 1, canonicalize ps) := by
  cases s with
  | peers ps => exact publication?_of_publish rfl
  | status s => exact publication?_eq_none rfl
  | both s ps => exact publication?_of_publish rfl

/-- A snapshot publishes the status if it has one, the same one or not. -/
theorem publication?_apply_status (now : Nat) (s : Snapshot) (d : Display) :
    d.publication? .status (.apply now s)
      = s.status?.map fun s => (d.views.status.version + 1, some (Views.canonicalStatus s)) := by
  cases s with
  | peers ps => exact publication?_eq_none rfl
  | status s => exact publication?_of_publish rfl
  | both s ps => exact publication?_of_publish rfl

end Display

/-! ## §2. Runs. -/

namespace Watching

variable {v : View} {i : Nat} {k : Watching}

@[simp] theorem run_nil (k : Watching) : k.run [] = k := rfl

@[simp] theorem run_cons (s : Step) (steps : List Step) (k : Watching) :
    k.run (s :: steps) = (k.step s).run steps := rfl

theorem run_append (before after : List Step) (k : Watching) :
    k.run (before ++ after) = (k.run before).run after := by
  simp only [run, List.foldl_append]

theorem published_append (before after : List Step) (k : Watching) :
    k.published v (before ++ after)
      = k.published v before ++ (k.run before).published v after := by
  induction before generalizing k with
  | nil => rfl
  | cons s before ih =>
      rw [List.cons_append, published, ih, published, List.append_assoc, run_cons]

theorem received_append (before after : List Step) (k : Watching) :
    k.received v i (before ++ after)
      = k.received v i before ++ (k.run before).received v i after := by
  induction before generalizing k with
  | nil => rfl
  | cons s before ih =>
      rw [List.cons_append, received, ih, received, List.append_assoc, run_cons]

/-- **A step leaves a view alone, or publishes one value in it**, with the next
number. -/
theorem step_view (v : View) (step : Step) (k : Watching) :
    (k.published? v step = none ∧ (k.step step).display.channel v = k.display.channel v)
      ∨ ∃ a, k.published? v step = some ((k.display.channel v).version + 1, a)
          ∧ (k.step step).display.channel v = (k.display.channel v).publish a := by
  cases step with
  | write w =>
      obtain same | ⟨a, writes⟩ := Display.channel_write v w k.display
      · exact .inl ⟨Display.publication?_eq_none same, same⟩
      · exact .inr ⟨a, Display.publication?_of_publish writes, writes⟩
  | subscribe w => exact .inl ⟨rfl, rfl⟩
  | changed w j ended => exact .inl ⟨rfl, rfl⟩

/-- Publications are numbered in order, from the next number on. -/
theorem published_pairwise (v : View) (steps : List Step) (k : Watching) :
    ((k.published v steps).map Prod.fst).Pairwise (· < ·)
      ∧ ∀ n ∈ (k.published v steps).map Prod.fst, (k.display.channel v).version < n := by
  induction steps generalizing k with
  | nil => exact ⟨.nil, fun _ listed => nomatch listed⟩
  | cons s steps ih =>
      obtain ⟨later, after⟩ := ih (k.step s)
      rw [published]
      obtain ⟨none, same⟩ | ⟨a, number, writes⟩ := step_view v s k
      · rw [same] at after
        rw [none]
        exact ⟨later, after⟩
      · rw [writes] at after
        rw [number]
        refine ⟨List.pairwise_cons.mpr ⟨after, later⟩, fun n listed => ?_⟩
        obtain rfl | listed := List.mem_cons.mp listed
        · exact Nat.lt_succ_self _
        · exact Nat.lt_of_succ_lt (after n listed)

/-! ## §3. One observer. -/

/-- What an observer knows of its view: no more publications than there were,
and if it knows of all, it has the latest value. -/
structure Knows {α : Type} (s : Subscription α) (c : Channel α) : Prop where
  /-- No more than there were. -/
  le : s.seen ≤ c.version
  /-- When it knows of all. -/
  latest : s.seen = c.version → s.current = c.value

/-- What a step does to a view and one observer of it. -/
inductive Way (v : View) (i : Nat) (step : Step) (k : Watching) (s : Subscription v.Value) :
    Channel v.Value → Subscription v.Value → Prop where
  /-- Nothing. -/
  | idle (published : k.published? v step = none) (received : k.received? v i step = none) :
      Way v i step k s (k.display.channel v) s
  /-- A value is published. -/
  | publishes (a : v.Value)
      (published : k.published? v step = some ((k.display.channel v).version + 1, a))
      (received : k.received? v i step = none) :
      Way v i step k s ((k.display.channel v).publish a) s
  /-- The observer gets the latest value, which it has not seen. -/
  | receives (unseen : s.seen ≠ (k.display.channel v).version)
      (published : k.published? v step = none)
      (received : k.received? v i step = some ((k.display.channel v).version, k.latest v)) :
      Way v i step k s (k.display.channel v) (.of (k.display.channel v))

section Observer

variable {α : Type} {s : Subscription α} {c : Channel α}

/-- Something new is got at once, and it is the latest value. -/
theorem changed_of_unseen (unseen : s.seen ≠ c.version) (ended : Bool) :
    s.changed c ended = (.ready c.value, .of c) := if_pos unseen

/-- Without anything new an observer stays as it is. -/
theorem changed_of_upToDate (seen : s.seen = c.version) (ended : Bool) :
    s.changed c ended = (.idle ended, s) := by
  unfold Subscription.changed Polled.idle
  rw [if_neg (not_not.mpr seen)]
  cases ended <;> rfl

theorem changed_ready_iff (s : Subscription α) (c : Channel α) (ended : Bool) (a : α) :
    (s.changed c ended).1 = .ready a ↔ s.seen ≠ c.version ∧ a = c.value := by
  by_cases seen : s.seen = c.version
  · rw [changed_of_upToDate seen]
    cases ended <;> simp [Polled.idle, seen]
  · rw [changed_of_unseen seen]
    simp [seen, eq_comm]

end Observer

variable {s : Subscription v.Value}

/-- What an observer gets that asks. -/
theorem received?_self (observer : (k.observers v)[i]? = some s) (ended : Bool) :
    k.received? v i (.changed v i ended) = if s.seen = (k.display.channel v).version then none
      else some ((k.display.channel v).version, k.latest v) := by
  simp only [received?, answer?, observer, Option.map_some, and_self, if_true]
  by_cases seen : s.seen = (k.display.channel v).version
  · rw [changed_of_upToDate seen, if_pos seen]
    cases ended <;> rfl
  · rw [changed_of_unseen seen, if_neg seen]
    rfl

/-- What becomes of an observer when one of its view asks. -/
theorem observer_changed (observer : (k.observers v)[i]? = some s) (j : Nat) (ended : Bool) :
    ((k.step (.changed v j ended)).observers v)[i]?
      = some (if j = i then (s.changed (k.display.channel v) ended).2 else s) := by
  show (Function.update k.observers v _ v)[i]? = _
  rw [Function.update_self, List.getElem?_modify, observer, Option.map_eq_map, Option.map_some]

/-- **An observer of a view is touched when it asks itself, and only then.** -/
theorem step_way (observer : (k.observers v)[i]? = some s) (step : Step) :
    ∃ s', ((k.step step).observers v)[i]? = some s'
      ∧ Way v i step k s ((k.step step).display.channel v) s' := by
  cases step with
  | write w =>
      refine ⟨s, observer, ?_⟩
      obtain ⟨none, same⟩ | ⟨a, number, writes⟩ := step_view v (.write w) k
      · rw [same]
        exact .idle none rfl
      · rw [writes]
        exact .publishes a number rfl
  | subscribe w =>
      refine ⟨s, ?_, .idle rfl rfl⟩
      show (Function.update k.observers w _ v)[i]? = some s
      by_cases own : v = w
      · subst own
        rw [Function.update_self, List.getElem?_append_left (List.getElem?_eq_some_iff.mp observer).1]
        exact observer
      · rw [Function.update_of_ne own]
        exact observer
  | changed w j ended =>
      -- another view, another observer of this one, or the observer itself
      by_cases own : v = w
      · subst own
        refine ⟨_, observer_changed observer j ended, ?_⟩
        by_cases self : j = i
        · subst self
          rw [if_pos rfl]
          have got := received?_self observer ended
          by_cases seen : s.seen = (k.display.channel v).version
          · rw [if_pos seen] at got
            rw [changed_of_upToDate seen]
            exact .idle rfl got
          · rw [if_neg seen] at got
            rw [changed_of_unseen seen]
            exact .receives seen rfl got
        · rw [if_neg self]
          exact .idle rfl (if_neg fun both => self both.2)
      · refine ⟨s, ?_, .idle rfl (if_neg fun both => own both.1.symm)⟩
        show (Function.update k.observers w _ v)[i]? = some s
        rw [Function.update_of_ne own]
        exact observer

theorem Way.knows {step : Step} {c' : Channel v.Value} {s' : Subscription v.Value}
    (way : Way v i step k s c' s') (h : Knows s (k.display.channel v)) : Knows s' c' := by
  cases way with
  | idle => exact h
  | publishes a =>
      -- the new publication is not seen
      refine ⟨Nat.le_succ_of_le h.le, fun seen => ?_⟩
      have le := h.le
      have seen : s.seen = (k.display.channel v).version + 1 := seen
      omega
  | receives => exact ⟨Nat.le_refl _, fun _ => rfl⟩

/-! ## §4. What is left to get. -/

/-- The publication that an observer gets next, if it has not seen all. -/
def unread {α : Type} (s : Subscription α) (c : Channel α) : List (Nat × α) :=
  if s.seen = c.version then [] else [(c.version, c.value)]

/-- **What an observer gets is the publication that it has not seen, if there is
one, and some of those that follow, in order.** -/
theorem received_sublist (steps : List Step) (observer : (k.observers v)[i]? = some s)
    (knows : Knows s (k.display.channel v)) :
    (k.received v i steps).Sublist (unread s (k.display.channel v) ++ k.published v steps) := by
  induction steps generalizing k s with
  | nil => exact List.nil_sublist _
  | cons step steps ih =>
      obtain ⟨s', observer', way⟩ := step_way observer step
      have rest := ih observer' (way.knows knows)
      rw [received, published]
      generalize (k.step step).display.channel v = c' at way rest
      cases way with
      | idle published received =>
          rw [published, received]
          exact rest
      | publishes a published received =>
          -- the new publication takes the place of the one that was not seen
          have new : unread s ((k.display.channel v).publish a)
              = [((k.display.channel v).version + 1, a)] := by
            have le := knows.le
            exact if_neg (by show ¬ s.seen = (k.display.channel v).version + 1; omega)
          rw [new] at rest
          rw [published, received]
          exact rest.trans (List.sublist_append_right _ _)
      | receives unseen published received =>
          rw [published, received]
          have read : unread (.of (k.display.channel v)) (k.display.channel v) = [] := if_pos rfl
          rw [read] at rest
          rw [unread, if_neg unseen]
          exact rest.cons_cons _

/-- What an observer has got and seen, of what was published since it began. -/
structure Seen (s : Subscription v.Value) (c : Channel v.Value)
    (published received : List (Nat × v.Value)) : Prop where
  /-- What it knows. -/
  knows : Knows s c
  /-- It has seen all that it has got. -/
  got : ∀ p ∈ received, p.1 ≤ s.seen
  /-- If it has seen all, it got the last publication. -/
  all : s.seen = c.version → received.getLast? = published.getLast?
  /-- If not, the last one is the latest value of the view. -/
  behind : s.seen ≠ c.version → published.getLast? = some (c.version, c.value)

theorem Seen.way {c' : Channel v.Value} {s' : Subscription v.Value} {step : Step}
    {published received : List (Nat × v.Value)}
    (h : Seen s (k.display.channel v) published received) (way : Way v i step k s c' s') :
    Seen s' c' (published ++ (k.published? v step).toList)
      (received ++ (k.received? v i step).toList) := by
  have knows := way.knows h.knows
  cases way with
  | idle none none' =>
      rw [none, none', Option.toList_none, List.append_nil, List.append_nil]
      exact h
  | publishes a number none =>
      rw [number, none, Option.toList_none, List.append_nil]
      refine ⟨knows, h.got, fun seen => ?_, fun _ => List.getLast?_concat⟩
      have le := h.knows.le
      have seen : s.seen = (k.display.channel v).version + 1 := seen
      omega
  | receives unseen none number =>
      rw [none, number, Option.toList_none, List.append_nil]
      refine ⟨knows, fun p listed => ?_, fun _ => ?_, fun unseen => absurd rfl unseen⟩
      · obtain before | now := List.mem_append.mp listed
        · exact Nat.le_trans (h.got p before) h.knows.le
        · obtain rfl := List.mem_singleton.mp now
          exact Nat.le_refl _
      · rw [h.behind unseen]
        exact List.getLast?_concat

/-- **What an observer has got and seen after a run.** -/
theorem run_seen {k₀ : Watching} (observer : (k₀.observers v)[i]? = some s)
    (upToDate : s = .of (k₀.display.channel v)) (steps : List Step) :
    ∃ s', ((k₀.run steps).observers v)[i]? = some s'
      ∧ Seen s' ((k₀.run steps).display.channel v) (k₀.published v steps) (k₀.received v i steps) := by
  induction steps using List.reverseRecOn with
  | nil =>
      subst upToDate
      exact ⟨_, observer, ⟨⟨Nat.le_refl _, fun _ => rfl⟩, fun _ listed => (nomatch listed),
        fun _ => rfl, fun unseen => absurd rfl unseen⟩⟩
  | append_singleton steps step ih =>
      obtain ⟨s₁, observer₁, seen⟩ := ih
      obtain ⟨s', observer', way⟩ := step_way observer₁ step
      have seen' := seen.way way
      rw [run_append, published_append, received_append]
      refine ⟨s', observer', ?_⟩
      simp only [published, received, List.append_nil]
      exact seen'

/-! ## §5. When nothing is written. -/

/-- An observer that has seen all, and has the latest value. -/
def IsUpToDate (v : View) (i : Nat) (k : Watching) : Prop :=
  ∃ s, (k.observers v)[i]? = some s ∧ s.seen = (k.display.channel v).version
    ∧ s.current = k.latest v

theorem published_quiet {quiet : List Step} (none : ∀ step ∈ quiet, step.isWrite = false)
    (v : View) (k : Watching) : k.published v quiet = [] := by
  induction quiet generalizing k with
  | nil => rfl
  | cons step quiet ih =>
      rw [published, ih fun s listed => none s (List.mem_cons_of_mem _ listed)]
      have first := none step List.mem_cons_self
      cases step with
      | write w => cases first
      | subscribe w => rfl
      | changed w j ended => rfl

/-- Nothing new comes up for it while nothing is written. -/
theorem IsUpToDate.step (h : IsUpToDate v i k) {step : Step} (quiet : step.isWrite = false) :
    IsUpToDate v i (k.step step) := by
  obtain ⟨s, observer, seen, current⟩ := h
  obtain ⟨s', observer', way⟩ := step_way observer step
  have view : (k.step step).display.channel v = k.display.channel v := by
    cases step with
    | write w => cases quiet
    | subscribe w => rfl
    | changed w j ended => rfl
  refine ⟨s', observer', ?_⟩
  unfold latest
  generalize (k.step step).display.channel v = c' at way view ⊢
  cases way with
  | idle => exact ⟨seen, current⟩
  | publishes a => exact absurd (congrArg Channel.version view) (Nat.succ_ne_self _)
  | receives unseen => exact absurd seen unseen

theorem IsUpToDate.run {quiet : List Step} (none : ∀ step ∈ quiet, step.isWrite = false)
    (h : IsUpToDate v i k) : IsUpToDate v i (k.run quiet) := by
  induction quiet generalizing k with
  | nil => exact h
  | cons step quiet ih =>
      exact ih (fun s listed => none s (List.mem_cons_of_mem _ listed))
        (h.step (none step List.mem_cons_self))

/-- **An observer that asks is up to date.** -/
theorem isUpToDate_changed (observer : (k.observers v)[i]? = some s)
    (knows : Knows s (k.display.channel v)) (ended : Bool) :
    IsUpToDate v i (k.step (.changed v i ended)) := by
  refine ⟨_, observer_changed observer i ended, ?_⟩
  rw [if_pos rfl]
  by_cases seen : s.seen = (k.display.channel v).version
  · rw [changed_of_upToDate seen]
    exact ⟨seen, knows.latest seen⟩
  · rw [changed_of_unseen seen]
    exact ⟨rfl, rfl⟩

theorem run_knows (steps : List Step) (observer : (k.observers v)[i]? = some s)
    (knows : Knows s (k.display.channel v)) :
    ∃ s', ((k.run steps).observers v)[i]? = some s' ∧ Knows s' ((k.run steps).display.channel v) := by
  induction steps generalizing k s with
  | nil => exact ⟨s, observer, knows⟩
  | cons step steps ih =>
      obtain ⟨s', observer', way⟩ := step_way observer step
      exact ih observer' (way.knows knows)

/-- **While nothing is written, an observer gets one publication at most, and is
up to date once it has asked.** -/
theorem run_quiet {quiet : List Step} (none : ∀ step ∈ quiet, step.isWrite = false)
    (observer : (k.observers v)[i]? = some s) (knows : Knows s (k.display.channel v)) :
    (k.received v i quiet).length ≤ 1
      ∧ ∀ ended, .changed v i ended ∈ quiet → IsUpToDate v i (k.run quiet) := by
  constructor
  · have got := (received_sublist quiet observer knows).length_le
    rw [published_quiet none, List.append_nil] at got
    refine Nat.le_trans got ?_
    unfold unread
    split
    next => exact Nat.zero_le 1
    next => exact Nat.le_refl 1
  · intro ended asks
    obtain ⟨before, after, rfl⟩ := List.append_of_mem asks
    obtain ⟨s', observer', knows'⟩ := run_knows before observer knows
    rw [run_append, run_cons]
    exact (isUpToDate_changed observer' knows' ended).run fun step listed =>
      none step (List.mem_append_right _ (List.mem_cons_of_mem _ listed))

end Watching

/-! ## §6. The writes of a session. -/

namespace Coordinator

/-- A message is handled with some writes, one after the other. -/
theorem handle_display (m : Message) (c : Coordinator) :
    ∃ ws, (c.handle m).2.display = c.display.writes ws := by
  cases m with
  | callback cb =>
      show ∃ ws, (c.onCallback cb).display = c.display.writes ws
      rcases onCallback_cases cb c with ⟨body, -, e⟩ | ⟨-, e⟩ | ⟨next, -, -, e⟩
      · rw [e]
        rcases onPeerUpdate_cases body c with e | ⟨-, ps, e⟩
        · rw [e]
          exact ⟨[], rfl⟩
        · rw [e]
          exact ⟨[.apply c.clock (.peers ps)], rfl⟩
      · rw [e]
        exact ⟨[.clear, .publish .terminated], rfl⟩
      · rw [e]
        obtain ⟨epoch, poll, loops, e⟩ := move_frame next c
        rw [e]
        exact ⟨[.publish next], rfl⟩
  | command command =>
      show ∃ ws, (c.onCommand command).2.display = c.display.writes ws
      obtain ⟨active, provisioner, pulls, started, outbox, e⟩ := onCommand_frame command c
      rw [e]
      exact ⟨[], rfl⟩
  | pulled number epoch snapshot =>
      show ∃ ws, (c.onPulled epoch snapshot).display = c.display.writes ws
      rcases onPulled_cases epoch snapshot c with e | ⟨-, -, s, -, e⟩
      · rw [e]
        exact ⟨[], rfl⟩
      · rw [e]
        exact ⟨[.apply c.clock s], rfl⟩

theorem act_display (a : Action) (c : Coordinator) :
    ∃ ws, (c.act a).display = c.display.writes ws := by
  rcases (act_change a c).observed with ⟨state, views⟩ | ⟨m, rest, -, -, e⟩
  · refine ⟨[], ?_⟩
    unfold display
    rw [state, views]
    rfl
  · rw [e]
    exact handle_display m { c with inbox := rest }

/-- **A session shows what such writes make of a blank display.** -/
theorem run_display (interval : Nat) (actions : List Action) :
    ∃ ws, ((start interval).run actions).display = Display.initial.writes ws := by
  refine run_induction (P := fun c => ∃ ws, c.display = Display.initial.writes ws) ?_ ⟨[], rfl⟩
    actions
  rintro c a ⟨before, e⟩
  obtain ⟨after, e'⟩ := act_display a c
  refine ⟨before ++ after, ?_⟩
  rw [e', e]
  simp only [Display.writes, List.foldl_append]

end Coordinator

/-! ## §7. The main result. -/

/-- What writes tell those who watch. -/
structure Display.PublishesWrites (d : Display) : Prop where
  /-- A state is told if it is another one. -/
  state : ∀ next, d.publication? .state (.publish next)
    = if d.state.value = next then none else some (d.state.version + 1, next)
  /-- A snapshot tells its peers, the same ones or not. -/
  peers : ∀ now s, d.publication? .peers (.apply now s)
    = s.peerList?.map fun ps => (d.views.peers.version + 1, canonicalize ps)
  /-- A snapshot tells its status, the same one or not. -/
  status : ∀ now s, d.publication? .status (.apply now s)
    = s.status?.map fun s => (d.views.status.version + 1, some (Views.canonicalStatus s))
  /-- Views that are emptied are told, empty before or not. -/
  clear : d.publication? .peers .clear = some (d.views.peers.version + 1, [])
    ∧ d.publication? .status .clear = some (d.views.status.version + 1, none)
  /-- Nothing else is told. -/
  others : ∀ next now s, d.publication? .peers (.publish next) = none
    ∧ d.publication? .status (.publish next) = none
    ∧ d.publication? .state (.apply now s) = none ∧ d.publication? .state .clear = none

theorem Display.publishesWrites (d : Display) : d.PublishesWrites where
  state next := publication?_publish next d
  peers now s := publication?_apply_peers now s d
  status now s := publication?_apply_status now s d
  clear := ⟨publication?_of_publish rfl, publication?_of_publish rfl⟩
  others _ _ _ := ⟨publication?_eq_none rfl, publication?_eq_none rfl,
    publication?_eq_none rfl, publication?_eq_none rfl⟩

namespace Watching

/-- How an observer of a view, that began in `k₀`, has followed it when some steps
were taken. -/
structure Follows (v : View) (i : Nat) (k₀ : Watching) (steps : List Step) : Prop where
  /-- It has got some of the publications since it began, in their order. -/
  inOrder : (k₀.received v i steps).Sublist (k₀.published v steps)
  /-- Their numbers ascend, so it got none twice. -/
  once : ((k₀.published v steps).map Prod.fst).Pairwise (· < ·)
  /-- It gets something at once exactly if it has not got the last one. -/
  ready : ∀ ended, (∃ a, (k₀.run steps).answer? v i ended = some (.ready a))
    ↔ (k₀.received v i steps).getLast? ≠ (k₀.published v steps).getLast?
  /-- What it gets then is the latest value, and becomes its own. -/
  latest : ∀ ended a, (k₀.run steps).answer? v i ended = some (.ready a) →
    a = (k₀.run steps).latest v
      ∧ ((k₀.run steps).step (.changed v i ended)).current? v i = some a
  /-- When nothing more is written it gets one value at most, and has the latest
  one when it has asked. -/
  last : ∀ quiet : List Step, (∀ step ∈ quiet, step.isWrite = false) →
    ((k₀.run steps).received v i quiet).length ≤ 1
      ∧ ∀ ended, .changed v i ended ∈ quiet →
          ((k₀.run steps).run quiet).current? v i = some (((k₀.run steps).run quiet).latest v)

variable {v : View} {i : Nat}

/-- An observer gets something at once exactly if there is something it has not
seen, and that is the latest value. -/
theorem answer?_eq_ready_iff {k : Watching} {s : Subscription v.Value}
    (observer : (k.observers v)[i]? = some s) (ended : Bool) (a : v.Value) :
    k.answer? v i ended = some (.ready a)
      ↔ s.seen ≠ (k.display.channel v).version ∧ a = k.latest v := by
  unfold answer?
  rw [observer, Option.map_some, Option.some_inj]
  exact changed_ready_iff s _ ended a

/-- It has not seen all exactly if it has not got the last publication. -/
theorem Seen.unseen_iff {s : Subscription v.Value} {c : Channel v.Value}
    {published received : List (Nat × v.Value)} (h : Seen s c published received) :
    s.seen ≠ c.version ↔ received.getLast? ≠ published.getLast? := by
  constructor
  · intro unseen same
    rw [h.behind unseen] at same
    have le := h.got _ (List.mem_of_getLast? same)
    exact unseen (Nat.le_antisymm h.knows.le le)
  · exact fun other seen => other (h.all seen)

theorem follows {k₀ : Watching}
    (observer : (k₀.observers v)[i]? = some (.of (k₀.display.channel v))) (steps : List Step) :
    Follows v i k₀ steps := by
  have begins : Knows (.of (k₀.display.channel v)) (k₀.display.channel v) :=
    ⟨Nat.le_refl _, fun _ => rfl⟩
  obtain ⟨s, observer', seen⟩ := run_seen observer rfl steps
  constructor
  case inOrder =>
    have got := received_sublist steps observer begins
    have read : unread (.of (k₀.display.channel v)) (k₀.display.channel v) = [] := if_pos rfl
    rwa [read] at got
  case once => exact (published_pairwise v steps k₀).1
  case ready =>
    intro ended
    rw [← seen.unseen_iff]
    constructor
    · rintro ⟨a, ready⟩
      exact ((answer?_eq_ready_iff observer' ended a).mp ready).1
    · intro unseen
      exact ⟨_, (answer?_eq_ready_iff observer' ended _).mpr ⟨unseen, rfl⟩⟩
  case latest =>
    intro ended a ready
    obtain ⟨unseen, rfl⟩ := (answer?_eq_ready_iff observer' ended a).mp ready
    refine ⟨rfl, ?_⟩
    unfold current?
    rw [observer_changed observer', if_pos rfl, changed_of_unseen unseen]
    rfl
  case last =>
    intro quiet none
    obtain ⟨few, asked⟩ := run_quiet none observer' seen.knows
    refine ⟨few, fun ended asks => ?_⟩
    obtain ⟨s', observer'', -, current⟩ := asked ended asks
    unfold current?
    rw [observer'', Option.map_some, current]

end Watching

/-- **Each observer follows its view**: whatever is written, and whoever else
watches, it gets publications in order, none twice, each time the latest, and
the last one for certain. -/
theorem observers_get_the_latest :
    (∀ d : Display, d.PublishesWrites)
      ∧ (∀ interval actions, ∃ ws,
          ((Coordinator.start interval).run actions).display = Display.initial.writes ws)
      ∧ ∀ (before : List Watching.Step) (v : View) (after : List Watching.Step),
          let k := Watching.start.run before
          let k₀ := k.step (.subscribe v)
          let i := (k.observers v).length
          k₀.current? v i = some (k₀.latest v) ∧ Watching.Follows v i k₀ after := by
  refine ⟨Display.publishesWrites, Coordinator.run_display, ?_⟩
  intro before v after k k₀ i
  have observer : (k₀.observers v)[i]? = some (.of (k₀.display.channel v)) := by
    show (Function.update k.observers v _ v)[i]? = _
    rw [Function.update_self]
    exact List.getElem?_concat_length
  refine ⟨?_, Watching.follows observer after⟩
  unfold Watching.current?
  rw [observer]
  rfl

/-- Two observers of the state: one asks after each step and gets three values,
the other asks late and gets the last one; that a state is told again is told to
nobody. -/
example :
    let k := Watching.start.run [.subscribe .state, .subscribe .state]
    let steps : List Watching.Step :=
      [.write (.publish .registered), .changed .state 0 false, .write (.publish .connected),
        .write (.publish .connected), .changed .state 0 false, .changed .state 0 false,
        .write (.publish .terminated), .changed .state 0 false, .changed .state 1 false,
        .changed .state 1 true]
    k.received .state 0 steps = [(1, .registered), (2, .connected), (3, .terminated)]
      ∧ k.received .state 1 steps = [(3, .terminated)] := by
  exact ⟨rfl, rfl⟩

end TunnelControl
