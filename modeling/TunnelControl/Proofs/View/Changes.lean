/-
  TunnelControl.Proofs.View.Changes
  ─────────────────────────────────
  **A VIEW THAT FOLLOWS A SERIES OF VALUES.**

  Each value is written unless it is the current one.  The view then holds the
  last value of the series, and its count of writes is the number of times
  that the series changed; an observer who was up to date is told of something
  exactly if that number is not zero.

    • `Channel.follow`, `Channel.changes`    — the writes, and how many count,
    • `value_follow`, `version_follow`       — what the view holds in the end,
    • `Subscription.changed_of_seen`,
      `Feed.next_of_seen`                    — what an observer gets.
-/
import TunnelControl.View.Channel

namespace TunnelControl

variable {α : Type}

namespace Channel

/-! ## §1. The writes. -/

variable [DecidableEq α]

/-- Writes the values one after the other, each unless it is the current one. -/
def follow (c : Channel α) (values : List α) : Channel α :=
  values.foldl (fun c a => c.publishIfNew a) c

/-- How often a series of values changes, beginning with a value. -/
def changes : α → List α → Nat
  | _, [] => 0
  | a, b :: rest => (if a = b then 0 else 1) + changes b rest

@[simp] theorem follow_nil (c : Channel α) : c.follow [] = c := rfl

@[simp] theorem follow_cons (c : Channel α) (a : α) (values : List α) :
    c.follow (a :: values) = (c.publishIfNew a).follow values := rfl

theorem follow_append (c : Channel α) (before after : List α) :
    c.follow (before ++ after) = (c.follow before).follow after := by
  simp only [follow, List.foldl_append]

/-- A write counts if the value is another one. -/
theorem version_publishIfNew (a : α) (c : Channel α) :
    (c.publishIfNew a).version = c.version + if c.value = a then 0 else 1 := by
  unfold publishIfNew
  split
  next => rfl
  next => rfl

/-! ## §2. What the view holds in the end. -/

/-- **The view holds the last value of the series**, or the one from before. -/
theorem value_follow (c : Channel α) (values : List α) :
    (c.follow values).value = values.getLast?.getD c.value := by
  induction values generalizing c with
  | nil => rfl
  | cons a values ih =>
      rw [follow_cons, ih, value_publishIfNew, List.getLast?_cons, Option.getD_some]

/-- **The writes that count are the changes of the series.** -/
theorem version_follow (c : Channel α) (values : List α) :
    (c.follow values).version = c.version + changes c.value values := by
  induction values generalizing c with
  | nil => rfl
  | cons a values ih =>
      rw [follow_cons, ih, value_publishIfNew, version_publishIfNew, changes, Nat.add_assoc]

end Channel

/-! ## §3. What an observer gets. -/

/-- What an observer gets to whom a view has nothing new to tell. -/
def Polled.idle (ended : Bool) : Polled α := if ended then .ended else .pending

variable [DecidableEq α]

open Channel

/-- **A subscriber who was up to date gets the last value if the series changed,
and nothing if not.** -/
theorem Subscription.changed_of_seen {s : Subscription α} {c : Channel α}
    (upToDate : s.seen = c.version) (values : List α) (ended : Bool) :
    s.changed (c.follow values) ended
      = if changes c.value values = 0 then (.idle ended, s)
        else (.ready (c.follow values).value, .of (c.follow values)) := by
  unfold changed
  rw [version_follow, upToDate]
  by_cases none : changes c.value values = 0
  · rw [if_neg (by omega), if_pos none]
    unfold Polled.idle
    split
    next => rfl
    next => rfl
  · rw [if_pos (by omega), if_neg none]

/-- **So does the reader of a feed.** -/
theorem Feed.next_of_seen {f : Feed} {c : Channel α}
    (upToDate : f.seen = some c.version) (values : List α) (ended : Bool) :
    f.next (c.follow values) ended
      = if changes c.value values = 0 then (.idle ended, f)
        else (.ready (c.follow values).value, ⟨some (c.follow values).version⟩) := by
  unfold next
  rw [version_follow, upToDate]
  by_cases none : changes c.value values = 0
  · rw [if_neg (by simp [none]), if_pos none]
    unfold Polled.idle
    split
    next => rfl
    next => rfl
  · rw [if_pos (by simp [none]), if_neg none]

end TunnelControl
