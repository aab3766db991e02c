/-
  TunnelControl.View.Channel
  ──────────────────────────
  **VIEWS AND THEIR OBSERVERS.**

  A view holds one value and counts how often it was written.  An observer
  remembers the count that it saw last; of several writes it sees only the
  latest value.  A view ends when nobody can write it any more; a write that
  was not yet seen is delivered before the end.

    • `Channel`, `Channel.publish`, `Channel.publishIfNew`,
    • `Subscription` — the value seen last and `changed`,
    • `Feed` — the current value first, then every change.
-/
namespace TunnelControl

/-- A value that is observed. -/
structure Channel (α : Type) where
  /-- The current value. -/
  value : α
  /-- The number of writes so far. -/
  version : Nat

namespace Channel

variable {α : Type}

/-- A view that was not written yet. -/
def initial (a : α) : Channel α := ⟨a, 0⟩

/-- Writes a value; it counts as a change even if it is the same. -/
def publish (a : α) (c : Channel α) : Channel α := ⟨a, c.version + 1⟩

/-- Writes a value unless it is the current one. -/
def publishIfNew [DecidableEq α] (a : α) (c : Channel α) : Channel α :=
  if c.value = a then c else c.publish a

@[simp] theorem value_publish (a : α) (c : Channel α) : (c.publish a).value = a := rfl

@[simp] theorem value_publishIfNew [DecidableEq α] (a : α) (c : Channel α) :
    (c.publishIfNew a).value = a := by
  unfold publishIfNew
  split
  · assumption
  · rfl

end Channel

/-- What an observer gets when it asks for the next change. -/
inductive Polled (α : Type) where
  /-- A value. -/
  | ready (a : α)
  /-- Nothing new yet. -/
  | pending
  /-- The view has ended. -/
  | ended

/-- An observer of a view. -/
structure Subscription (α : Type) where
  /-- The value it saw last. -/
  current : α
  /-- The number of writes it knows of. -/
  seen : Nat

namespace Subscription

variable {α : Type}

/-- Begins to observe: the value of this moment is seen. -/
def of (c : Channel α) : Subscription α := ⟨c.value, c.version⟩

/-- Asks for the next change. -/
def changed (s : Subscription α) (c : Channel α) (ended : Bool) : Polled α × Subscription α :=
  if s.seen ≠ c.version then (.ready c.value, of c)
  else if ended then (.ended, s)
  else (.pending, s)

end Subscription

/-- An observer that is given the current value before all changes. -/
structure Feed where
  /-- The number of writes it knows of; none before the first item. -/
  seen : Option Nat

namespace Feed

variable {α : Type}

/-- A feed that has given nothing yet. -/
def fresh : Feed := ⟨none⟩

/-- Asks for the next item. -/
def next (f : Feed) (c : Channel α) (ended : Bool) : Polled α × Feed :=
  if f.seen ≠ some c.version then (.ready c.value, ⟨some c.version⟩)
  else if ended then (.ended, f)
  else (.pending, f)

end Feed

end TunnelControl
