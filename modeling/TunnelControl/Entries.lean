/-
  TunnelControl.Entries
  ─────────────────────
  **FINITE MAPS KEPT IN ORDER OF THEIR NAMES.**

  A map from names to values is a list of pairs in ascending order of the
  names, each name once.  Stored secrets, JSON records that are re-read, and
  configuration tables are such maps: what they print is sorted without a
  further step.

    • `insert`, `erase`, `get?`, `keys`,
    • `ofList` — later pairs replace earlier ones of the same name.
-/
namespace TunnelControl

/-- Pairs in ascending order of their names. -/
abbrev Entries (α : Type) := List (String × α)

namespace Entries

variable {α : Type}

/-- The value of a name. -/
def get? (name : String) : Entries α → Option α
  | [] => none
  | (k, a) :: rest => if k = name then some a else get? name rest

/-- Gives a name its value, at its place in the order. -/
def insert (name : String) (a : α) : Entries α → Entries α
  | [] => [(name, a)]
  | (k, b) :: rest =>
      if k = name then (name, a) :: rest
      else if name < k then (name, a) :: (k, b) :: rest
      else (k, b) :: insert name a rest

/-- Removes a name. -/
def erase (name : String) (m : Entries α) : Entries α :=
  m.filter fun e => e.1 ≠ name

/-- The names, in order. -/
def keys (m : Entries α) : List String := m.map (·.1)

/-- Inserts pairs from left to right. -/
def ofList (pairs : List (String × α)) : Entries α :=
  pairs.foldl (fun m e => insert e.1 e.2 m) []

/-! ## Each operation through `get?`. -/

@[simp] theorem get?_nil (name : String) : get? name ([] : Entries α) = none := rfl

theorem get?_insert (name other : String) (a : α) (m : Entries α) :
    get? other (insert name a m) = if name = other then some a else get? other m := by
  induction m with
  | nil => simp [insert, get?]
  | cons e m ih =>
      obtain ⟨k, b⟩ := e
      by_cases hk : k = name
      · subst hk
        by_cases h : k = other <;> simp [insert, get?, h]
      · by_cases hlt : name < k
        · simp [insert, get?, hk, hlt]
        · by_cases h : k = other
          · subst h
            simp [insert, get?, hk, hlt, Ne.symm hk]
          · simp [insert, get?, hk, hlt, h, ih]

theorem get?_erase (name other : String) (m : Entries α) :
    get? other (erase name m) = if name = other then none else get? other m := by
  induction m with
  | nil => simp [erase, get?]
  | cons e m ih =>
      obtain ⟨k, b⟩ := e
      have ih' : get? other (List.filter (fun e => decide (e.1 ≠ name)) m)
          = if name = other then none else get? other m := ih
      by_cases hk : k = name
      · subst hk
        by_cases h : k = other <;> simp_all [erase, get?]
      · by_cases h : k = other
        · subst h
          simp [erase, get?, hk, Ne.symm hk]
        · simp_all [erase, get?]

end Entries

end TunnelControl
