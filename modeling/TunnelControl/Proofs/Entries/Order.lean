/-
  TunnelControl.Proofs.Entries.Order
  ──────────────────────────────────
  **MAPS IN ASCENDING ORDER OF THEIR NAMES.**

  A map that is built from nothing by insertions and removals lists every
  name once, in ascending order.  Of two such lists with the same values
  under every name there is only one, so such a map may be rebuilt from its
  entries in any order.

    • `Ordered`, `ordered_insert`, `ordered_erase`, `insert_perm`,
    • `mem_keys_iff`, `nodup_keys`   — what the keys are,
    • `Ordered.ext`                  — the values tell the map,
    • `ofList_perm`                  — the entries in any order give it back.
-/
import TunnelControl.Entries

namespace TunnelControl.Entries

variable {α : Type}

/-- The names ascend, so none comes twice. -/
def Ordered (m : Entries α) : Prop := m.Pairwise fun e e' => e.1 < e'.1

/-! ## §1. Names. -/

theorem lt_of_ne_of_not_lt {a b : String} (ne : a ≠ b) (h : ¬ b < a) : a < b := by
  by_cases lt : a < b
  · exact lt
  · exact absurd (String.le_antisymm (String.not_lt.mp h) (String.not_lt.mp lt)) ne

theorem get?_eq_none_iff {name : String} {m : Entries α} :
    get? name m = none ↔ ∀ e ∈ m, e.1 ≠ name := by
  induction m with
  | nil => simp
  | cons e m ih =>
      obtain ⟨k, a⟩ := e
      by_cases hk : k = name
      · simp [get?, hk]
      · simp [get?, hk, ih]

theorem mem_of_get? {name : String} {a : α} {m : Entries α} (h : get? name m = some a) :
    (name, a) ∈ m := by
  induction m with
  | nil => cases h
  | cons e m ih =>
      obtain ⟨k, b⟩ := e
      by_cases hk : k = name
      · subst hk
        simp only [get?, if_true, Option.some.injEq] at h
        rw [h]
        exact List.mem_cons_self
      · rw [get?, if_neg hk] at h
        exact List.mem_cons_of_mem _ (ih h)

/-- **The keys are the names with a value.** -/
theorem mem_keys_iff {name : String} {m : Entries α} :
    name ∈ m.keys ↔ (get? name m).isSome = true := by
  rw [Option.isSome_iff_ne_none, Ne, get?_eq_none_iff, keys, List.mem_map]
  simp

theorem nodup_keys {m : Entries α} (h : m.Ordered) : m.keys.Nodup := by
  unfold keys
  rw [List.nodup_iff_pairwise_ne, List.pairwise_map]
  refine List.Pairwise.imp ?_ h
  intro e e' lt same
  rw [same] at lt
  exact String.lt_irrefl _ lt

/-! ## §2. Insertions and removals. -/

theorem ordered_nil : Ordered ([] : Entries α) := List.Pairwise.nil

theorem mem_insert {name : String} {a : α} {m : Entries α} {e : String × α}
    (h : e ∈ insert name a m) : e = (name, a) ∨ e ∈ m := by
  induction m with
  | nil => exact .inl (List.mem_singleton.mp h)
  | cons f m ih =>
      obtain ⟨k, b⟩ := f
      unfold insert at h
      split at h
      next =>
        rcases List.mem_cons.mp h with rfl | h
        · exact .inl rfl
        · exact .inr (List.mem_cons_of_mem _ h)
      next =>
        split at h
        next =>
          rcases List.mem_cons.mp h with rfl | h
          · exact .inl rfl
          · exact .inr h
        next =>
          rcases List.mem_cons.mp h with rfl | h
          · exact .inr List.mem_cons_self
          · exact (ih h).imp id (List.mem_cons_of_mem _)

theorem ordered_insert {m : Entries α} (h : m.Ordered) (name : String) (a : α) :
    Ordered (insert name a m) := by
  induction m with
  | nil => exact List.pairwise_singleton _ _
  | cons e m ih =>
      obtain ⟨k, b⟩ := e
      obtain ⟨least, h⟩ := List.pairwise_cons.mp h
      unfold insert
      split
      next same =>
        subst same
        exact List.pairwise_cons.mpr ⟨least, h⟩
      next other =>
        split
        next before =>
          refine List.pairwise_cons.mpr ⟨?_, List.pairwise_cons.mpr ⟨least, h⟩⟩
          intro e he
          rcases List.mem_cons.mp he with rfl | he
          · exact before
          · exact String.lt_trans before (least e he)
        next notBefore =>
          refine List.pairwise_cons.mpr ⟨?_, ih h⟩
          intro e he
          rcases mem_insert he with rfl | he
          · exact lt_of_ne_of_not_lt other notBefore
          · exact least e he

theorem ordered_erase {m : Entries α} (h : m.Ordered) (name : String) :
    Ordered (erase name m) :=
  h.filter _

/-- A name that has no value is added to the entries. -/
theorem insert_perm {name : String} {m : Entries α} (fresh : get? name m = none) (a : α) :
    (insert name a m).Perm ((name, a) :: m) := by
  induction m with
  | nil => exact .refl _
  | cons e m ih =>
      obtain ⟨k, b⟩ := e
      have other : k ≠ name := get?_eq_none_iff.mp fresh _ List.mem_cons_self
      rw [get?, if_neg other] at fresh
      rw [insert, if_neg other]
      split
      next => exact .refl _
      next => exact ((ih fresh).cons (k, b)).trans (.swap (name, a) (k, b) m)

/-- A name below all others comes first. -/
theorem insert_of_forall_lt {name : String} {m : Entries α} (h : ∀ e ∈ m, name < e.1) (a : α) :
    insert name a m = (name, a) :: m := by
  cases m with
  | nil => rfl
  | cons e m =>
      obtain ⟨k, b⟩ := e
      have lt : name < k := h _ List.mem_cons_self
      have ne : k ≠ name := by
        rintro rfl
        exact String.lt_irrefl _ lt
      rw [insert, if_neg ne, if_pos lt]

/-! ## §3. The values tell the map. -/

/-- The name of the first entry has no value further on. -/
theorem Ordered.get?_tail {k : String} {a : α} {m : Entries α} (h : Ordered ((k, a) :: m)) :
    get? k m = none := by
  rw [get?_eq_none_iff]
  intro e he same
  have lt := (List.pairwise_cons.mp h).1 e he
  rw [same] at lt
  exact String.lt_irrefl _ lt

/-- **Two maps with the same value under every name are the same.** -/
theorem Ordered.ext {m m' : Entries α} (h : m.Ordered) (h' : m'.Ordered)
    (same : ∀ name, get? name m = get? name m') : m = m' := by
  induction m generalizing m' with
  | nil =>
      cases m' with
      | nil => rfl
      | cons e' m' =>
          have first := same e'.1
          simp [get?] at first
  | cons e m ih =>
      obtain ⟨k, a⟩ := e
      cases m' with
      | nil =>
          have first := same k
          simp [get?] at first
      | cons e' m' =>
          obtain ⟨k', a'⟩ := e'
          -- if the first names differed, each would stand behind the other
          have names : k = k' := Decidable.byContradiction fun differ => by
            have left : get? k m' = some a := by
              have := same k
              rwa [get?, if_pos rfl, get?, if_neg (Ne.symm differ), eq_comm] at this
            have right : get? k' m = some a' := by
              have := same k'
              rwa [get?, if_neg differ, get?, if_pos rfl] at this
            have lt := (List.pairwise_cons.mp h').1 _ (mem_of_get? left)
            have gt := (List.pairwise_cons.mp h).1 _ (mem_of_get? right)
            exact String.lt_asymm lt gt
          subst names
          have values : a = a' := by
            have := same k
            simpa [get?] using this
          subst values
          have rest : ∀ name, get? name m = get? name m' := by
            intro name
            by_cases hn : k = name
            · subst hn
              rw [h.get?_tail, h'.get?_tail]
            · have := same name
              rwa [get?, if_neg hn, get?, if_neg hn] at this
          rw [ih (List.pairwise_cons.mp h).2 (List.pairwise_cons.mp h').2 rest]

/-! ## §4. Entries in any order. -/

/-- Pairs of different names may be inserted in either order. -/
theorem get?_foldl_insert {pairs : List (String × α)} (nodup : (pairs.map (·.1)).Nodup)
    (m : Entries α) (name : String) :
    get? name (pairs.foldl (fun m e => insert e.1 e.2 m) m)
      = (get? name pairs).or (get? name m) := by
  induction pairs generalizing m with
  | nil => rfl
  | cons e pairs ih =>
      obtain ⟨k, a⟩ := e
      rw [List.map_cons, List.nodup_cons] at nodup
      rw [List.foldl_cons, ih nodup.2, get?_insert]
      by_cases hk : k = name
      · subst hk
        have fresh : get? k pairs = none := by
          rw [get?_eq_none_iff]
          intro e he same
          exact nodup.1 (List.mem_map.mpr ⟨e, he, same⟩)
        simp [get?, fresh]
      · simp [get?, hk]

theorem ordered_foldl_insert (pairs : List (String × α)) {m : Entries α} (h : m.Ordered) :
    Ordered (pairs.foldl (fun m e => insert e.1 e.2 m) m) := by
  induction pairs generalizing m with
  | nil => exact h
  | cons e pairs ih => exact ih (ordered_insert h e.1 e.2)

theorem get?_of_mem {pairs : List (String × α)} (nodup : (pairs.map (·.1)).Nodup) {e : String × α}
    (h : e ∈ pairs) : get? e.1 pairs = some e.2 := by
  induction pairs with
  | nil => cases h
  | cons f pairs ih =>
      obtain ⟨k, a⟩ := f
      rw [List.map_cons, List.nodup_cons] at nodup
      rcases List.mem_cons.mp h with rfl | h
      · simp [get?]
      · have hk : k ≠ e.1 := by
          intro same
          exact nodup.1 (List.mem_map.mpr ⟨e, h, same.symm⟩)
        rw [get?, if_neg hk, ih nodup.2 h]

/-- **The entries of a map, inserted in any order, give the map.** -/
theorem ofList_perm {m : Entries α} (h : m.Ordered) {pairs : List (String × α)}
    (perm : pairs.Perm m) : ofList pairs = m := by
  have nodup : (pairs.map (·.1)).Nodup := (perm.map _).nodup_iff.mpr (nodup_keys h)
  refine Ordered.ext (ordered_foldl_insert pairs ordered_nil) h fun name => ?_
  rw [ofList, get?_foldl_insert nodup, get?_nil, Option.or_none]
  cases value : get? name m with
  | none =>
      rw [get?_eq_none_iff] at value ⊢
      exact fun e he => value e (perm.mem_iff.mp he)
  | some a => exact get?_of_mem nodup (perm.mem_iff.mpr (mem_of_get? value))

end TunnelControl.Entries
