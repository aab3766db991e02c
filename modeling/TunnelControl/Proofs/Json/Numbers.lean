/-
  TunnelControl.Proofs.Json.Numbers
  ─────────────────────────────────
  **WHERE A NUMBER ENDS, AND WHEN IT IS WHOLE.**

  A number of the grammar may be of any size.  Skipping it takes exactly its
  characters; reading it yields a whole number exactly if it has neither point
  nor exponent and its digits fit into 64 bits.  In both cases the number ends
  where nothing continues it.

    • `digits_split`                     — a run of digits is found again,
    • `skipMagnitude_append`,
      `exists_magnitude_of_skipMagnitude` — skipping a number,
    • `readMagnitude_integer_iff`        — reading a whole number.
-/
import TunnelControl.Proofs.Json.Strings

namespace TunnelControl.Json

/-! ## §1. Runs of digits. -/

/-- No digit comes next. -/
def NoDigit (cs : List Char) : Prop := ∀ c ∈ cs.head?, Text.isDigit c = false

theorem Ends.noDigit {rest : List Char} (h : Ends rest) : NoDigit rest := by
  intro c hc
  have continues := h c hc
  simp only [continuesNumber, Bool.or_eq_false_iff] at continues
  exact continues.1.1.1

theorem noDigit_cons {c : Char} (h : Text.isDigit c = false) (cs : List Char) :
    NoDigit (c :: cs) := by
  intro d hd
  cases hd
  exact h

/-- Dropping digits stops behind them. -/
theorem dropWhile_digits {ds tail : List Char} (digits : ∀ c ∈ ds, Text.isDigit c = true)
    (stops : NoDigit tail) : (ds ++ tail).dropWhile Text.isDigit = tail := by
  rw [List.dropWhile_append_of_pos digits]
  cases tail with
  | nil => rfl
  | cons c cs => exact List.dropWhile_cons_of_neg (by simp [stops c rfl])

/-- **A run of digits is found again** in front of what is none. -/
theorem digits_split {ds ds' tail tail' : List Char} (digits : ∀ c ∈ ds, Text.isDigit c = true)
    (digits' : ∀ c ∈ ds', Text.isDigit c = true) (stops : NoDigit tail) (stops' : NoDigit tail')
    (same : ds ++ tail = ds' ++ tail') : ds = ds' ∧ tail = tail' := by
  have rests : tail = tail' := by
    rw [← dropWhile_digits digits stops, same, dropWhile_digits digits' stops']
  subst rests
  exact ⟨List.append_cancel_right same, rfl⟩

/-- What is dropped are digits, and no digit is left in front. -/
theorem exists_digits_of_dropWhile (cs : List Char) : ∃ ds,
    (∀ c ∈ ds, Text.isDigit c = true) ∧ NoDigit (cs.dropWhile Text.isDigit)
      ∧ cs = ds ++ cs.dropWhile Text.isDigit := by
  refine ⟨cs.takeWhile Text.isDigit, ?_, ?_, (List.takeWhile_append_dropWhile).symm⟩
  · intro c hc
    exact List.all_eq_true.mp (List.all_takeWhile (l := cs)) c hc
  · intro c hc
    have head := List.head?_dropWhile_not Text.isDigit cs
    rw [Option.mem_def.mp hc] at head
    simpa using head

/-- Behind a digit, the run of digits is dropped. -/
theorem exists_digits_of_digit {c : Char} (digit : Text.isDigit c = true) (cs : List Char) :
    ∃ ds, Digits (c :: ds) ∧ cs = ds ++ cs.dropWhile Text.isDigit := by
  obtain ⟨ds, digits, -, split⟩ := exists_digits_of_dropWhile cs
  refine ⟨ds, ⟨List.cons_ne_nil c ds, ?_⟩, split⟩
  intro d hd
  rcases List.mem_cons.mp hd with rfl | hd
  · exact digit
  · exact digits d hd

/-- The digits before a point are taken: a leading zero alone, other digits as
far as they go. -/
theorem exists_whole_of_digit {c : Char} (digit : Text.isDigit c = true) (cs : List Char) :
    ∃ ds, Whole ds ∧ c :: cs = ds ++ (if c = '0' then cs else cs.dropWhile Text.isDigit) := by
  obtain ⟨ds, digits, split⟩ := exists_digits_of_digit digit cs
  by_cases zero : c = '0'
  · refine ⟨[c], ⟨⟨List.cons_ne_nil c [], ?_⟩, fun _ => by rw [zero]⟩, ?_⟩
    · intro d hd
      exact digits.all d (by simp [List.mem_singleton.mp hd])
    · rw [if_pos zero]
      rfl
  · refine ⟨c :: ds, ⟨digits, fun head => absurd (Option.some.inj head) zero⟩, ?_⟩
    rw [if_neg zero, List.cons_append, ← split]

theorem Fraction.noDigit {fs rest : List Char} (h : Fraction fs) (stops : NoDigit rest) :
    NoDigit (fs ++ rest) := by
  cases h with
  | none => exact stops
  | some => exact noDigit_cons (by decide) _

theorem Power.noDigit {ps rest : List Char} (h : Power ps) (ends : Ends rest) :
    NoDigit (ps ++ rest) := by
  cases h with
  | none => exact ends.noDigit
  | some marks =>
      rcases marks with rfl | rfl
      · exact noDigit_cons (by decide) _
      · exact noDigit_cons (by decide) _

/-! ## §2. Skipping. -/

/-- The digits of an exponent are skipped. -/
theorem skipExponent_append {sign ds : List Char} (signs : sign = [] ∨ sign = ['+'] ∨ sign = ['-'])
    (digits : Digits ds) {rest : List Char} (ends : Ends rest) :
    skipExponent (sign ++ ds ++ rest) = .ok rest := by
  obtain ⟨c, cs, rfl, digit⟩ := digits.head
  have dropped : (cs ++ rest).dropWhile Text.isDigit = rest :=
    dropWhile_digits (fun d hd => digits.all d (List.mem_cons_of_mem c hd)) ends.noDigit
  have plus : c ≠ '+' := numberHead_ne (.inr digit) (by decide)
  have minus : c ≠ '-' := by
    rintro rfl
    cases digit
  rcases signs with rfl | rfl | rfl
  · simp [skipExponent, plus, minus, digit, dropped]
  · simp [skipExponent, digit, dropped]
  · simp [skipExponent, digit, dropped]

theorem skipPower_append {ps : List Char} (h : Power ps) {rest : List Char} (ends : Ends rest) :
    skipPower (ps ++ rest) = .ok rest := by
  cases h with
  | none =>
      cases rest with
      | nil => rfl
      | cons c cs =>
          have continues : continuesNumber c = false := ends c rfl
          unfold skipPower
          rw [List.nil_append]
          split
          next he =>
            rw [(List.cons.inj he).1] at continues
            cases continues
          next he =>
            rw [(List.cons.inj he).1] at continues
            cases continues
          next => rfl
  | some marks signs digits =>
      have skipped := skipExponent_append signs digits ends
      rcases marks with rfl | rfl
      · exact skipped
      · exact skipped

/-- **A number is skipped to its end.** -/
theorem skipMagnitude_append {u : List Char} (h : Magnitude u) {rest : List Char}
    (ends : Ends rest) : skipMagnitude (u ++ rest) = .ok rest := by
  cases h with
  | @mk ds fs ps whole fraction power =>
      obtain ⟨c, cs, rfl, digit⟩ := whole.head
      have stops := fraction.noDigit (power.noDigit ends)
      -- the digits before the point; a leading zero is taken alone
      have taken : (if c = '0' then cs ++ (fs ++ (ps ++ rest))
          else (cs ++ (fs ++ (ps ++ rest))).dropWhile Text.isDigit) = fs ++ (ps ++ rest) := by
        split
        next hc =>
          rw [hc] at whole
          injection whole.zero rfl with _ hcs
          rw [hcs]
          rfl
        next =>
          exact dropWhile_digits (fun d hd => whole.all d (List.mem_cons_of_mem c hd)) stops
      have skipped := skipPower_append power ends
      simp only [List.append_assoc, List.cons_append]
      unfold skipMagnitude
      simp only [digit, taken, Bool.not_true, Bool.false_eq_true, if_false]
      cases fraction with
      | some digits =>
          obtain ⟨d, ds', rfl, digit'⟩ := digits.head
          have dropped := dropWhile_digits digits.all (power.noDigit ends)
          simp only [List.cons_append] at dropped ⊢
          rw [if_pos digit', dropped, skipped]
      | none =>
          rw [List.nil_append] at stops ⊢
          generalize ps ++ rest = tail at stops skipped
          split
          next more =>
            -- a point would have been left to the exponent
            unfold skipPower at skipped
            injection skipped with skipped
            subst skipped
            exact absurd (ends '.' rfl) (by decide)
          next d more other =>
            rw [if_neg (by simp [stops d rfl]), skipped]
          next =>
            unfold skipPower at skipped
            exact skipped

/-- A run of digits was dropped that has at least one. -/
theorem exists_digits_of_head {tail rest : List Char}
    (h : (match tail with
      | c :: cs =>
          if Text.isDigit c then .ok (cs.dropWhile Text.isDigit) else .error .malformed
      | [] => .error .malformed : Except ReadError (List Char)) = .ok rest) :
    ∃ ds, Digits ds ∧ tail = ds ++ rest := by
  split at h
  next c cs =>
    split at h
    next digit =>
      injection h with h
      obtain ⟨ds, digits, split⟩ := exists_digits_of_digit digit cs
      rw [h] at split
      exact ⟨c :: ds, digits, by rw [List.cons_append, ← split]⟩
    next => cases h
  next => cases h

theorem exists_digits_of_skipExponent {cs rest : List Char} (h : skipExponent cs = .ok rest) :
    ∃ sign ds, (sign = [] ∨ sign = ['+'] ∨ sign = ['-']) ∧ Digits ds ∧ cs = sign ++ ds ++ rest := by
  cases cs with
  | nil => cases h
  | cons d cs =>
      by_cases plus : d = '+'
      · subst plus
        obtain ⟨ds, digits, rfl⟩ := exists_digits_of_head h
        exact ⟨['+'], ds, .inr (.inl rfl), digits, rfl⟩
      by_cases minus : d = '-'
      · subst minus
        obtain ⟨ds, digits, rfl⟩ := exists_digits_of_head h
        exact ⟨['-'], ds, .inr (.inr rfl), digits, rfl⟩
      · obtain ⟨ds, digits, found⟩ := exists_digits_of_head h
        refine ⟨[], ds, .inl rfl, digits, ?_⟩
        split at found
        next he => exact absurd (List.cons.inj he).1 plus
        next he => exact absurd (List.cons.inj he).1 minus
        next => exact found

theorem exists_power_of_skipPower {cs rest : List Char} (h : skipPower cs = .ok rest) :
    ∃ ps, Power ps ∧ cs = ps ++ rest := by
  unfold skipPower at h
  split at h
  next cs =>
    obtain ⟨sign, ds, signs, digits, rfl⟩ := exists_digits_of_skipExponent h
    exact ⟨_, .some (.inl rfl) signs digits, rfl⟩
  next cs =>
    obtain ⟨sign, ds, signs, digits, rfl⟩ := exists_digits_of_skipExponent h
    exact ⟨_, .some (.inr rfl) signs digits, rfl⟩
  next =>
    injection h with h
    exact ⟨[], .none, h⟩

/-- **What was skipped as a number is one.** -/
theorem exists_magnitude_of_skipMagnitude {cs rest : List Char} (h : skipMagnitude cs = .ok rest) :
    ∃ u, Magnitude u ∧ cs = u ++ rest := by
  unfold skipMagnitude at h
  split at h
  next => cases h
  next c after =>
    split at h
    next => cases h
    next digit =>
      rw [Bool.not_eq_true', Bool.not_eq_false] at digit
      obtain ⟨ds, whole, split⟩ := exists_whole_of_digit digit after
      dsimp only at h
      generalize (if c = '0' then after else after.dropWhile Text.isDigit) = tail at h split
      rw [split]
      split at h
      next more =>
        -- a fraction comes next
        split at h
        next d ds' =>
          split at h
          next digit' =>
            obtain ⟨fs, digits, split⟩ := exists_digits_of_digit digit' ds'
            obtain ⟨ps, power, hps⟩ := exists_power_of_skipPower h
            rw [List.dropWhile_cons_of_pos digit'] at hps
            refine ⟨_, .mk whole (.some digits) power, ?_⟩
            rw [split, hps]
            simp
          next => cases h
        next => cases h
      next d more _ =>
        split at h
        next => cases h
        next =>
          obtain ⟨ps, power, hps⟩ := exists_power_of_skipPower h
          refine ⟨_, .mk whole .none power, ?_⟩
          rw [hps]
          simp
      next =>
        injection h with h
        subst h
        exact ⟨_, .mk whole .none .none, by simp⟩

/-! ## §3. Whole numbers. -/

/-- Digits are added as far as the number stays below a limit. -/
theorem exists_digits_of_absorb {limit n count n' count' : Nat} {cs rest : List Char}
    (below : n < limit) (h : absorb limit n count cs = (n', count', rest)) :
    ∃ ds, (∀ c ∈ ds, Text.isDigit c = true) ∧ cs = ds ++ rest ∧ Text.digitsFrom n ds = n'
      ∧ n' < limit := by
  induction cs generalizing n count with
  | nil =>
      rw [absorb] at h
      injection h with hn h
      injection h with _ h
      exact ⟨[], by simp, h, hn, hn ▸ below⟩
  | cons c cs ih =>
      rw [absorb] at h
      split at h
      next hc =>
        obtain ⟨ds, digits, rfl, value, limited⟩ := ih hc.2 h
        refine ⟨c :: ds, ?_, rfl, by rw [Text.digitsFrom_cons]; exact value, limited⟩
        intro d hd
        rcases List.mem_cons.mp hd with rfl | hd
        · exact hc.1
        · exact digits d hd
      next =>
        injection h with hn h
        injection h with _ h
        exact ⟨[], by simp, h, hn, hn ▸ below⟩

/-- The digits that are added at first fit into 64 bits, and they are all that
stand before a point, unless one more is left. -/
theorem exists_digits_of_taken {c : Char} (digit : Text.isDigit c = true) {after left : List Char}
    {n count : Nat} (taken : (if c = '0' then (0, 1, after)
      else absorb UInt64.size 0 0 (c :: after)) = (n, count, left)) :
    ∃ ds, c :: after = ds ++ left ∧ Text.digitsFrom 0 ds = n ∧ n < UInt64.size
      ∧ (NoDigit left → Whole ds) := by
  split at taken
  next zero =>
    injection taken with hn taken
    injection taken with _ hleft
    subst zero hn hleft
    exact ⟨['0'], rfl, rfl, by decide, fun _ => ⟨⟨by simp, by simp [Text.isDigit]⟩, fun _ => rfl⟩⟩
  next nonzero =>
    obtain ⟨ds, digits, split, value, limited⟩ :=
      exists_digits_of_absorb (by decide : 0 < UInt64.size) taken
    refine ⟨ds, split, value, limited, fun stops => ?_⟩
    cases ds with
    | nil =>
        -- the first digit would be left
        rw [List.nil_append] at split
        have none := stops c (by rw [← split]; rfl)
        rw [digit] at none
        cases none
    | cons d ds =>
        refine ⟨⟨List.cons_ne_nil d ds, digits⟩, fun head => absurd ?_ nonzero⟩
        rw [(List.cons.inj split).1]
        exact Option.some.inj head

/-- What is read as a whole number has neither point nor exponent, and its
digits fit into 64 bits. -/
theorem exists_whole_of_readMagnitude {negative : Bool} {cs rest : List Char} {i : Int}
    (h : readMagnitude negative cs = .ok (.integer i, rest)) :
    ∃ ds, Whole ds ∧ cs = ds ++ rest ∧ Ends rest ∧ Text.digitsFrom 0 ds < UInt64.size
      ∧ readMagnitude.whole negative (Text.digitsFrom 0 ds) = .integer i := by
  -- a reader of doubles yields no whole number
  have noInteger : ∀ r : Except ReadError (Binary64 × List Char),
      r.map (fun r => (Number.real r.1, r.2)) ≠ .ok (.integer i, rest) := by
    intro r hr
    obtain ⟨r, -, hr⟩ := map_eq_ok_iff.mp hr
    injection hr with hr
    cases hr
  unfold readMagnitude at h
  split at h
  next => cases h
  next c after =>
    split at h
    next => cases h
    next digit =>
      rw [Bool.not_eq_true', Bool.not_eq_false] at digit
      dsimp only at h
      obtain ⟨n, count, left, taken⟩ : ∃ n count left, (if c = '0' then (0, 1, after)
          else absorb UInt64.size 0 0 (c :: after)) = (n, count, left) := ⟨_, _, _, rfl⟩
      simp only [taken] at h
      obtain ⟨ds, split, value, limited, whole⟩ := exists_digits_of_taken digit taken
      subst value
      split at h
      next => exact absurd h (noInteger _)
      next d more other =>
        split at h
        next => exact absurd h (noInteger _)
        next mark =>
          split at h
          next =>
            split at h
            next => cases h
            next =>
              split at h
              next => exact absurd h (noInteger _)
              next => exact absurd h (noInteger _)
          next stops =>
            have ends : Ends (d :: more) := by
              refine ends_cons ?_ more
              have point : d ≠ '.' := fun hd => other (by rw [hd])
              rw [not_or] at mark
              simp [continuesNumber, point, mark, stops]
            injection h with h
            injection h with hi h
            subst h
            exact ⟨ds, whole ends.noDigit, split, ends, limited, hi⟩
      next =>
        injection h with h
        injection h with hi h
        subst h
        exact ⟨ds, whole ends_nil.noDigit, split, ends_nil, limited, hi⟩

/-- **A number is read as a whole one exactly if it has neither point nor
exponent and its digits fit into 64 bits.** -/
theorem readMagnitude_integer_iff {negative : Bool} {cs rest : List Char} {i : Int} :
    readMagnitude negative cs = .ok (.integer i, rest) ↔ ∃ ds, Whole ds ∧ cs = ds ++ rest
      ∧ Ends rest ∧ Text.digitsFrom 0 ds < UInt64.size
      ∧ readMagnitude.whole negative (Text.digitsFrom 0 ds) = .integer i := by
  constructor
  · exact exists_whole_of_readMagnitude
  · rintro ⟨ds, whole, rfl, ends, fits, hi⟩
    rw [readMagnitude_whole negative whole fits ends, hi]

end TunnelControl.Json
