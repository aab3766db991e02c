/-
  TunnelControl.Proofs.Text.Parts
  ───────────────────────────────
  **A TEXT IS CUT WHERE IT WAS JOINED.**

  A piece without the separator is cut off whole, whatever follows behind the
  separator; so pieces that were joined are found again.

    • `parts_of_not_mem`, `parts_append` — the pieces between separators,
    • `mem_parts_of_mem`                — which lose nothing else,
    • `not_mem_of_mem_parts`            — and hold no separator,
    • `cut?_append`, `cut?_eq_some_iff`, `cut?_eq_none_iff` — the first separator.
-/
import TunnelControl.Text.Parts

namespace TunnelControl.Text

variable {sep : Char}

/-- A text without the separator is one piece. -/
theorem parts_of_not_mem {p : List Char} (free : sep ∉ p) : parts sep p = [p] := by
  induction p with
  | nil => rfl
  | cons c p ih =>
      obtain ⟨other, rest⟩ := not_or.mp (mt List.mem_cons.mpr free)
      rw [parts, if_neg (Ne.symm other), ih rest]

/-- The first piece ends at the first separator. -/
theorem parts_append {p : List Char} (free : sep ∉ p) (cs : List Char) :
    parts sep (p ++ sep :: cs) = p :: parts sep cs := by
  induction p with
  | nil =>
      show (if sep = sep then _ else _) = _
      rw [if_pos rfl]
  | cons c p ih =>
      obtain ⟨other, rest⟩ := not_or.mp (mt List.mem_cons.mpr free)
      rw [List.cons_append, parts, if_neg (Ne.symm other), ih rest]

/-- No character but the separator is lost. -/
theorem mem_parts_of_mem {cs : List Char} {c : Char} (listed : c ∈ cs) (other : c ≠ sep) :
    ∃ p ∈ parts sep cs, c ∈ p := by
  induction cs with
  | nil => cases listed
  | cons d cs ih =>
      unfold parts
      split
      next same =>
        obtain rfl | later := List.mem_cons.mp listed
        · exact absurd same other
        · obtain ⟨p, piece, within⟩ := ih later
          exact ⟨p, List.mem_cons_of_mem _ piece, within⟩
      next =>
      split
      next none => exact absurd none (parts_ne_nil sep cs)
      next p ps found =>
        obtain rfl | later := List.mem_cons.mp listed
        · exact ⟨c :: p, List.mem_cons_self, List.mem_cons_self⟩
        · obtain ⟨q, piece, within⟩ := ih later
          rw [found] at piece
          obtain rfl | piece := List.mem_cons.mp piece
          · exact ⟨d :: q, List.mem_cons_self, List.mem_cons_of_mem _ within⟩
          · exact ⟨q, List.mem_cons_of_mem _ piece, within⟩

/-- No piece holds the separator. -/
theorem not_mem_of_mem_parts {cs p : List Char} (piece : p ∈ parts sep cs) : sep ∉ p := by
  induction cs generalizing p with
  | nil =>
      obtain rfl := List.mem_singleton.mp piece
      exact List.not_mem_nil
  | cons c cs ih =>
      unfold parts at piece
      split at piece
      next =>
        rcases List.mem_cons.mp piece with rfl | piece
        · exact List.not_mem_nil
        · exact ih piece
      next other =>
      split at piece
      next none => exact absurd none (parts_ne_nil sep cs)
      next first rest found =>
        rw [found] at ih
        rcases List.mem_cons.mp piece with rfl | piece
        · exact not_or.mpr ⟨Ne.symm other, ih List.mem_cons_self⟩ ∘ List.mem_cons.mp
        · exact ih (List.mem_cons_of_mem _ piece)

/-- The text is cut at its first separator. -/
theorem cut?_append {p : List Char} (free : sep ∉ p) (cs : List Char) :
    cut? sep (p ++ sep :: cs) = some (p, cs) := by
  induction p with
  | nil =>
      show (if sep = sep then _ else _) = _
      rw [if_pos rfl]
  | cons c p ih =>
      obtain ⟨other, rest⟩ := not_or.mp (mt List.mem_cons.mpr free)
      rw [List.cons_append, cut?, if_neg (Ne.symm other), ih rest]
      rfl

/-- A text is cut into what stands before the first separator and what stands
behind it. -/
theorem cut?_eq_some_iff {cs front back : List Char} :
    cut? sep cs = some (front, back) ↔ cs = front ++ sep :: back ∧ sep ∉ front := by
  constructor
  · intro h
    induction cs generalizing front with
    | nil => cases h
    | cons c cs ih =>
        unfold cut? at h
        split at h
        next same =>
          obtain ⟨rfl, rfl⟩ := Prod.mk.inj (Option.some.inj h)
          exact ⟨by rw [same, List.nil_append], List.not_mem_nil⟩
        next other =>
          obtain ⟨⟨before, behind⟩, found, same⟩ := Option.map_eq_some_iff.mp h
          obtain ⟨rfl, rfl⟩ := Prod.mk.inj same
          obtain ⟨rfl, free⟩ := ih found
          exact ⟨rfl, not_or.mpr ⟨Ne.symm other, free⟩ ∘ List.mem_cons.mp⟩
  · rintro ⟨rfl, free⟩
    exact cut?_append free back

theorem cut?_eq_none_iff {cs : List Char} : cut? sep cs = none ↔ sep ∉ cs := by
  constructor
  · intro none listed
    obtain ⟨front, back, rfl, free⟩ := List.eq_append_cons_of_mem listed
    rw [cut?_append free] at none
    cases none
  · intro free
    cases found : cut? sep cs with
    | none => rfl
    | some r =>
        obtain ⟨rfl, -⟩ := cut?_eq_some_iff.mp found
        exact absurd (List.mem_append_right _ List.mem_cons_self) free

end TunnelControl.Text
