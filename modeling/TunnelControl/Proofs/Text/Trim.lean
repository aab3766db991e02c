/-
  TunnelControl.Proofs.Text.Trim
  ──────────────────────────────
  **WHAT TRIMMING LEAVES.**

    • `Trimmed`           — no blank at either end,
    • `trimmed_trim`      — trimming does what it says,
    • `isBlankText_trim`, `trim_eq_empty_iff` — and takes nothing but blanks,
    • `isBlank_of_visible`, `isBlank_of_isDigit` — what is no blank,
    • `trim_of_trimmed`, `trim_trim`, `trimChars_of_no_blank` — where it takes nothing,
    • `TrimsTo`, `trimsTo_iff`       — what it leaves, told without it.
-/
import TunnelControl.Text.Blank
import TunnelControl.Text.Numeral

namespace TunnelControl.Text

/-- Neither the first nor the last character is a blank. -/
structure Trimmed (s : String) : Prop where
  /-- It does not begin with a blank. -/
  first : ∀ c ∈ s.toList.head?, isBlank c = false
  /-- It does not end with a blank. -/
  last : ∀ c ∈ s.toList.getLast?, isBlank c = false

/-! ## §1. Ends. -/

theorem head?_dropWhile_isBlank (cs : List Char) {c : Char}
    (h : c ∈ (cs.dropWhile isBlank).head?) : isBlank c = false := by
  induction cs with
  | nil => cases h
  | cons d cs ih =>
      cases hd : isBlank d with
      | true =>
          rw [List.dropWhile_cons_of_pos hd] at h
          exact ih h
      | false =>
          rw [List.dropWhile_cons_of_neg (by simp [hd])] at h
          injection h with h
          rw [← h]
          exact hd

/-- Trimming at the end takes blanks off the end. -/
theorem trimRight_append (cs : List Char) :
    ∃ blanks : List Char, blanks.all isBlank = true ∧ trimRight cs ++ blanks = cs := by
  refine ⟨(cs.reverse.takeWhile isBlank).reverse, ?_, ?_⟩
  · rw [List.all_reverse]
    exact List.all_takeWhile
  · rw [trimRight, ← List.reverse_append, List.takeWhile_append_dropWhile, List.reverse_reverse]

theorem trimmed_trim (s : String) : Trimmed (trim s) where
  first := by
    intro c hc
    rw [trim, String.toList_ofList, trimChars] at hc
    obtain ⟨blanks, -, happend⟩ := trimRight_append (s.toList.dropWhile isBlank)
    apply head?_dropWhile_isBlank s.toList
    rw [← happend]
    cases htrim : trimRight (s.toList.dropWhile isBlank) with
    | nil =>
        rw [htrim] at hc
        cases hc
    | cons d ds =>
        rw [htrim] at hc
        exact hc
  last := by
    intro c hc
    rw [trim, String.toList_ofList, trimChars, trimRight, List.getLast?_reverse] at hc
    exact head?_dropWhile_isBlank _ hc

/-! ## §2. Blank texts. -/

theorem all_dropWhile_isBlank (cs : List Char) :
    (cs.dropWhile isBlank).all isBlank = cs.all isBlank := by
  induction cs with
  | nil => rfl
  | cons c cs ih =>
      cases hc : isBlank c with
      | true => rw [List.dropWhile_cons_of_pos hc, ih, List.all_cons, hc, Bool.true_and]
      | false => rw [List.dropWhile_cons_of_neg (by simp [hc])]

/-- A text is blank if and only if it is so after trimming. -/
theorem isBlankText_trim (s : String) : isBlankText (trim s) = isBlankText s := by
  unfold isBlankText
  rw [trim, String.toList_ofList, trimChars, trimRight, List.all_reverse, all_dropWhile_isBlank,
    List.all_reverse, all_dropWhile_isBlank]

/-- Trimming leaves nothing of a blank text only. -/
theorem trim_eq_empty_iff {s : String} : trim s = "" ↔ isBlankText s = true := by
  constructor
  · intro h
    rw [← isBlankText_trim, h]
    rfl
  · exact trim_of_isBlankText

/-! ## §3. Trimmed texts. -/

theorem dropWhile_isBlank_of_head {cs : List Char} (h : ∀ c ∈ cs.head?, isBlank c = false) :
    cs.dropWhile isBlank = cs := by
  cases cs with
  | nil => rfl
  | cons c cs =>
      refine List.dropWhile_cons_of_neg ?_
      rw [h c rfl]
      exact Bool.false_ne_true

theorem trimChars_of_ends {cs : List Char} (first : ∀ c ∈ cs.head?, isBlank c = false)
    (last : ∀ c ∈ cs.getLast?, isBlank c = false) : trimChars cs = cs := by
  rw [← List.head?_reverse] at last
  unfold trimChars trimRight
  rw [dropWhile_isBlank_of_head first, dropWhile_isBlank_of_head last, List.reverse_reverse]

/-- **A text without outer blanks stays as it is.** -/
theorem trim_of_trimmed {s : String} (h : Trimmed s) : trim s = s := by
  unfold trim
  rw [trimChars_of_ends h.first h.last, String.ofList_toList]

theorem trim_trim (s : String) : trim (trim s) = trim s := trim_of_trimmed (trimmed_trim s)

theorem trimmed_of_trim {s : String} (same : trim s = s) : Trimmed s := same ▸ trimmed_trim s

/-- A text without any blank stays as it is. -/
theorem trimChars_of_no_blank {cs : List Char} (h : ∀ c ∈ cs, isBlank c = false) :
    trimChars cs = cs :=
  trimChars_of_ends (fun c first => h c (List.mem_of_mem_head? first))
    (fun c last => h c (List.mem_of_getLast? last))

/-- The visible ASCII characters are no blanks. -/
theorem isBlank_of_visible {c : Char} (low : 33 ≤ c.toNat) (high : c.toNat ≤ 126) :
    isBlank c = false := by
  unfold isBlank
  simp only [Bool.or_eq_false_iff, Bool.and_eq_false_iff, decide_eq_false_iff_not,
    beq_eq_false_iff_ne]
  omega

theorem isBlank_of_isDigit {c : Char} (h : isDigit c = true) : isBlank c = false := by
  unfold isDigit at h
  rw [Bool.and_eq_true, decide_eq_true_iff, decide_eq_true_iff] at h
  have low : 48 ≤ c.toNat := h.1
  have high : c.toNat ≤ 57 := h.2
  exact isBlank_of_visible (by omega) (by omega)

/-- A text is what stands between the outer blanks of another one. -/
structure TrimsTo (s t : String) : Prop where
  /-- Nothing but blanks stands around it. -/
  between : ∃ front back : List Char, front.all isBlank = true ∧ back.all isBlank = true
    ∧ s.toList = front ++ t.toList ++ back
  /-- It has none itself. -/
  trimmed : Trimmed t

theorem trimRight_append_blanks (cs : List Char) {blanks : List Char}
    (h : blanks.all isBlank = true) : trimRight (cs ++ blanks) = trimRight cs := by
  unfold trimRight
  rw [List.reverse_append, List.dropWhile_append_of_pos]
  intro c listed
  exact List.all_eq_true.mp h c (List.mem_reverse.mp listed)

/-- Blanks around a text do not matter. -/
theorem trimChars_between (cs : List Char) {front back : List Char}
    (hfront : front.all isBlank = true) (hback : back.all isBlank = true) :
    trimChars (front ++ cs ++ back) = trimChars cs := by
  unfold trimChars
  rw [List.append_assoc, List.dropWhile_append_of_pos (List.all_eq_true.mp hfront)]
  by_cases blank : cs.all isBlank = true
  · -- nothing is left of a blank text, so nothing protects the blanks behind it
    have all : (cs ++ back).all isBlank = true := by rw [List.all_append, blank, hback]; rfl
    rw [dropWhile_of_all blank, dropWhile_of_all all]
  · have kept : (cs ++ back).dropWhile isBlank = cs.dropWhile isBlank ++ back := by
      rw [List.dropWhile_append, if_neg]
      intro none
      exact blank (by rw [← all_dropWhile_isBlank, List.isEmpty_iff.mp none]; rfl)
    rw [kept, trimRight_append_blanks _ hback]

theorem trimsTo_trim (s : String) : TrimsTo s (trim s) where
  between := by
    obtain ⟨back, hback, kept⟩ := trimRight_append (s.toList.dropWhile isBlank)
    refine ⟨s.toList.takeWhile isBlank, back, List.all_takeWhile, hback, ?_⟩
    rw [trim, String.toList_ofList, trimChars, List.append_assoc, kept,
      List.takeWhile_append_dropWhile]
  trimmed := trimmed_trim s

/-- Trimming leaves no character that was not there. -/
theorem mem_of_mem_trim {c : Char} {s : String} (listed : c ∈ (trim s).toList) : c ∈ s.toList := by
  obtain ⟨front, back, -, -, split⟩ := (trimsTo_trim s).between
  rw [split]
  exact List.mem_append_left _ (List.mem_append_right _ listed)

/-- **Trimming leaves what stands between the outer blanks**, and nothing else does. -/
theorem trimsTo_iff {s t : String} : TrimsTo s t ↔ t = trim s := by
  constructor
  · rintro ⟨⟨front, back, hfront, hback, split⟩, trimmed⟩
    unfold trim
    rw [split, trimChars_between _ hfront hback, trimChars_of_ends trimmed.first trimmed.last,
      String.ofList_toList]
  · rintro rfl
    exact trimsTo_trim s

end TunnelControl.Text
