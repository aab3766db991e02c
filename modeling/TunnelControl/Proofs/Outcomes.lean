/-
  TunnelControl.Proofs.Outcomes
  ─────────────────────────────
  **WHAT COMES OF STEPS IN A ROW.**

  A row of steps succeeds exactly if each of them does, each with what the one
  before has left.

    • `toOption_bind`, `toOption_map`, `toOption_eq_some_iff` — the value alone,
    • `bind_eq_ok_iff`, `map_eq_ok_iff`, `mapError_eq_ok_iff` — one success as two,
    • `bind_eq_error_iff`                           — and one failure as either.
-/
namespace TunnelControl

variable {ε α β : Type}

theorem toOption_bind (x : Except ε α) (f : α → Except ε β) :
    (x >>= f).toOption = x.toOption.bind fun a => (f a).toOption := by
  cases x <;> rfl

theorem toOption_map (f : α → β) (x : Except ε α) : (x.map f).toOption = x.toOption.map f := by
  cases x <;> rfl

theorem toOption_eq_some_iff {x : Except ε α} {a : α} : x.toOption = some a ↔ x = .ok a := by
  cases x <;> simp [Except.toOption]

theorem bind_eq_ok_iff {x : Except ε α} {f : α → Except ε β} {b : β} :
    (x >>= f) = .ok b ↔ ∃ a, x = .ok a ∧ f a = .ok b := by
  cases x <;> simp [bind, Except.bind]

theorem bind_eq_error_iff {x : Except ε α} {f : α → Except ε β} {e : ε} :
    (x >>= f) = .error e ↔ x = .error e ∨ ∃ a, x = .ok a ∧ f a = .error e := by
  cases x <;> simp [bind, Except.bind]

theorem map_eq_ok_iff {x : Except ε α} {f : α → β} {b : β} :
    x.map f = .ok b ↔ ∃ a, x = .ok a ∧ f a = b := by
  cases x <;> simp [Except.map]

theorem mapError_eq_ok_iff {ε' : Type} {x : Except ε α} {f : ε → ε'} {a : α} :
    x.mapError f = .ok a ↔ x = .ok a := by
  cases x with
  | ok b =>
      show (Except.ok b : Except ε' α) = .ok a ↔ _
      simp
  | error e =>
      show (Except.error (f e) : Except ε' α) = .ok a ↔ _
      simp

end TunnelControl
