/-
  TunnelControl.Storage.Storing
  ─────────────────────────────
  **COMPUTATIONS ON A STORAGE THAT MAY FAIL.**

  Whatever such a computation changed before it failed stays changed.

    • `Storing.act`, `Storing.look`, `Storing.change`, `Storing.ofExcept`,
    • `Storing.within` — the same on a part of a larger storage,
    • `Storing.on`     — what comes of it, one lemma for each way to build one.
-/
import TunnelControl.Storage.Error

namespace TunnelControl

/-- Computations on a storage that may fail. -/
abbrev Storing (σ : Type) := ExceptT StorageError (StateM σ)

namespace Storing

variable {σ τ α β : Type}

/-- Runs a computation on a storage. -/
def on (x : Storing σ α) (s : σ) : Except StorageError α × σ := x s

/-- Does what a function says. -/
def act (f : σ → Except StorageError α × σ) : Storing σ α := f

/-- Tells something about the storage. -/
def look (f : σ → α) : Storing σ α := fun s => (.ok (f s), s)

/-- Changes the storage. -/
def change (f : σ → σ) : Storing σ Unit := fun s => (.ok (), f s)

/-- Fails if a check failed. -/
def ofExcept {ε : Type} (cause : ε → StorageError) : Except ε α → Storing σ α
  | .ok a => fun s => (.ok a, s)
  | .error e => fun s => (.error (cause e), s)

/-- Runs a computation on a part of a larger storage. -/
def within (part : τ → σ) (replace : σ → τ → τ) (x : Storing σ α) : Storing τ α := fun t =>
  let (result, s) := x.on (part t)
  (result, replace s t)

/-! ## What comes of each way to build a computation. -/

@[simp] theorem on_pure (a : α) (s : σ) : (pure a : Storing σ α).on s = (.ok a, s) := rfl

@[simp] theorem on_throw (e : StorageError) (s : σ) :
    (throw e : Storing σ α).on s = (.error e, s) := rfl

@[simp] theorem on_act (f : σ → Except StorageError α × σ) (s : σ) : (act f).on s = f s := rfl

@[simp] theorem on_look (f : σ → α) (s : σ) : (look f).on s = (.ok (f s), s) := rfl

@[simp] theorem on_change (f : σ → σ) (s : σ) : (change f).on s = (.ok (), f s) := rfl

@[simp] theorem on_ofExcept_ok {ε : Type} (cause : ε → StorageError) (a : α) (s : σ) :
    (ofExcept cause (.ok a) : Storing σ α).on s = (.ok a, s) := rfl

@[simp] theorem on_ofExcept_error {ε : Type} (cause : ε → StorageError) (e : ε) (s : σ) :
    (ofExcept cause (.error e) : Storing σ α).on s = (.error (cause e), s) := rfl

@[simp] theorem on_within (part : τ → σ) (replace : σ → τ → τ) (x : Storing σ α) (t : τ) :
    (x.within part replace).on t = ((x.on (part t)).1, replace (x.on (part t)).2 t) := rfl

/-- A failure ends the computation, and the storage is left as it was then. -/
theorem on_bind (x : Storing σ α) (f : α → Storing σ β) (s : σ) :
    (x >>= f).on s = match x.on s with
      | (.ok a, s) => (f a).on s
      | (.error e, s) => (.error e, s) := by
  show (ExceptT.bind x f) s = _
  unfold ExceptT.bind ExceptT.mk
  show (bind x (ExceptT.bindCont f) : StateM σ (Except StorageError β)) s = _
  show (match x s with | (a, s') => ExceptT.bindCont f a s') = _
  unfold on
  rcases x s with ⟨a | a, s'⟩ <;> rfl

theorem on_map (f : α → β) (x : Storing σ α) (s : σ) :
    (f <$> x).on s = ((x.on s).1.map f, (x.on s).2) := by
  have h : (f <$> x : Storing σ β) = x >>= fun a => pure (f a) := (bind_pure_comp f x).symm
  rw [h, on_bind]
  rcases x.on s with ⟨a | a, s'⟩ <;> rfl

end Storing

end TunnelControl
