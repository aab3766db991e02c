/-
  TunnelControl.Proofs.Duration.ReadBack
  ──────────────────────────────────────
  **A SPAN THAT WAS WRITTEN IS READ AS ITSELF.**

  A number of more than one digit is read digit by digit, and each of its
  beginnings is no larger than the number itself, so the reader gets through
  if the number as a whole fits.  The name of a unit is collected letter by
  letter, and the end of the text adds the span.

  A span is added in seconds and nanoseconds, each in 64 bits.  So one that is
  written in seconds is read back if its seconds fit, and one in a smaller
  unit if all its nanoseconds do.

    • `Fits`, `parse_fits`        — what is read has whole seconds of 64 bits,
    • `run_digits`, `run_letters` — the reader inside a number and a name,
    • `parse_span`               — a number and the name of a unit are read,
    • `Readable`, `parse_engineText` — and so is what was written for the engine.
-/
import TunnelControl.Duration.Reader
import TunnelControl.Proofs.Duration.EngineText
import TunnelControl.Proofs.Outcomes
import TunnelControl.Proofs.Text.Trim

namespace TunnelControl.Duration

/-! ## §1. Sums. -/

theorem word_of_lt {n : Nat} (fits : n < UInt64.size) : word n = .ok n := if_pos fits

theorem word_eq_ok_iff {n m : Nat} : word n = .ok m ↔ n < UInt64.size ∧ n = m := by
  unfold word
  split
  next fits => simp [fits]
  next large => simp [large]

/-- The whole seconds fit 64 bits. -/
def Fits (d : Duration) : Prop := d.seconds < UInt64.size

theorem plus_fits {d e : Duration} {seconds nanoseconds : Nat}
    (h : plus d seconds nanoseconds = .ok e) : e.Fits := by
  obtain ⟨_, -, h⟩ := bind_eq_ok_iff.mp h
  obtain ⟨_, fits, h⟩ := bind_eq_ok_iff.mp h
  cases h
  exact (word_eq_ok_iff.mp fits).1

theorem addSpan_fits {sum e : Duration} {n : Nat} {fraction : Option (Nat × Nat)}
    {name : String} (h : addSpan sum n fraction name = .ok e) : e.Fits := by
  unfold addSpan at h
  split at h
  next => cases h
  next =>
  split at h
  next => cases h
  next =>
  obtain ⟨_, -, h⟩ := bind_eq_ok_iff.mp h
  obtain ⟨_, -, h⟩ := bind_eq_ok_iff.mp h
  obtain ⟨whole, added, h⟩ := bind_eq_ok_iff.mp h
  cases fraction with
  | none =>
      cases h
      exact plus_fits added
  | some quotient =>
      dsimp only at h
      split at h
      next => cases h
      next =>
      obtain ⟨_, -, h⟩ := bind_eq_ok_iff.mp h
      obtain ⟨_, -, h⟩ := bind_eq_ok_iff.mp h
      obtain ⟨_, -, h⟩ := bind_eq_ok_iff.mp h
      obtain ⟨_, -, h⟩ := bind_eq_ok_iff.mp h
      exact plus_fits h

/-- A step leaves the sum as it is, or a span has ended and is added. -/
theorem step_sum {sum sum' : Duration} {reading reading' : Reading} {offset : Nat} {c : Char}
    (h : step sum reading offset c = .ok (sum', reading')) :
    sum' = sum ∨ ∃ n fraction name, addSpan sum n fraction name = .ok sum' := by
  -- only behind letters, at a blank or a digit, has a span ended
  unfold step at h
  cases reading with
  | gap start =>
      left
      dsimp only at h
      split at h
      next => cases h; rfl
      next => split at h <;> cases h; rfl
  | number n =>
      left
      dsimp only at h
      split at h
      next =>
        obtain ⟨_, -, h⟩ := bind_eq_ok_iff.mp h
        cases h
        rfl
      next =>
      split at h
      next => cases h; rfl
      next =>
      split at h
      next => cases h; rfl
      next => split at h <;> cases h; rfl
  | fraction n num den mark =>
      left
      dsimp only at h
      split at h
      next =>
        obtain ⟨_, -, h⟩ := bind_eq_ok_iff.mp h
        obtain ⟨_, -, h⟩ := bind_eq_ok_iff.mp h
        cases h
        rfl
      next =>
      split at h
      next => cases h; rfl
      next =>
      split at h
      next => split at h <;> cases h; rfl
      next => cases h
  | unit n fraction letters =>
      dsimp only at h
      split at h
      next =>
        obtain ⟨_, added, h⟩ := bind_eq_ok_iff.mp h
        cases h
        exact .inr ⟨_, _, _, added⟩
      next =>
      split at h
      next =>
        obtain ⟨_, added, h⟩ := bind_eq_ok_iff.mp h
        cases h
        exact .inr ⟨_, _, _, added⟩
      next =>
      left
      split at h
      next => cases h; rfl
      next => cases h

theorem finish_fits {sum d : Duration} {reading : Reading} (h : finish sum reading = .ok d)
    (fits : sum.Fits) : d.Fits := by
  unfold finish at h
  cases reading with
  | gap start =>
      cases h
      exact fits
  | number n => exact addSpan_fits h
  | fraction n num den mark =>
      dsimp only at h
      split at h
      next => cases h
      next => exact addSpan_fits h
  | unit n fraction letters => exact addSpan_fits h

theorem run_fits {sum d : Duration} {reading : Reading} {offset : Nat} {cs : List Char}
    (h : run sum reading offset cs = .ok d) (fits : sum.Fits) : d.Fits := by
  induction cs generalizing sum reading offset with
  | nil => exact finish_fits h fits
  | cons c cs ih =>
      obtain ⟨⟨sum', reading'⟩, taken, h⟩ := bind_eq_ok_iff.mp h
      refine ih h ?_
      obtain rfl | ⟨n, fraction, name, added⟩ := step_sum taken
      · exact fits
      · exact addSpan_fits added

theorem fits_zero : zero.Fits := by
  unfold Fits
  decide

/-- **The whole seconds of a span that was read fit 64 bits.** -/
theorem parse_fits {s : String} {d : Duration} (h : parse s = .ok d) : d.Fits := by
  unfold parse parseTrimmed at h
  split at h
  next =>
    cases h
    exact fits_zero
  next =>
  split at h
  next => cases h
  next => exact run_fits h fits_zero

/-! ## §2. Inside a span. -/

/-- Digits are taken one by one; none of the numbers on the way is larger than
the last one. -/
theorem run_digits (sum : Duration) (n offset : Nat) {digits : List Char} (rest : List Char)
    (all : ∀ d ∈ digits, Text.isDigit d = true) (fits : Text.digitsFrom n digits < UInt64.size) :
    ∃ offset', run sum (.number n) offset (digits ++ rest)
      = run sum (.number (Text.digitsFrom n digits)) offset' rest := by
  induction digits generalizing n offset with
  | nil => exact ⟨offset, rfl⟩
  | cons d digits ih =>
      rw [Text.digitsFrom_cons] at fits ⊢
      have taken : step sum (.number n) offset d
          = .ok (sum, .number (10 * n + Text.digitValue d)) := by
        have small : 10 * n + Text.digitValue d < UInt64.size :=
          Nat.lt_of_le_of_lt (Text.le_digitsFrom _ digits) fits
        unfold step
        dsimp only
        rw [if_pos (all d List.mem_cons_self), word_of_lt small]
        rfl
      obtain ⟨offset', later⟩ := ih (10 * n + Text.digitValue d) (offset + d.utf8Size)
        (fun d listed => all d (List.mem_cons_of_mem _ listed)) fits
      refine ⟨offset', ?_⟩
      rw [← later, List.cons_append, run, taken]
      rfl

/-- A character that only the name of a unit takes. -/
def OnlyLetter (c : Char) : Prop :=
  isUnitLetter c = true ∧ Text.isDigit c = false ∧ Text.isBlank c = false

instance (c : Char) : Decidable (OnlyLetter c) := inferInstanceAs (Decidable (_ ∧ _))

/-- A name of a unit is checked letter by letter. -/
theorem onlyLetters {name : String} (all : (name.toList.all fun c => OnlyLetter c) = true) :
    ∀ c ∈ name.toList, OnlyLetter c :=
  fun c listed => of_decide_eq_true (List.all_eq_true.mp all c listed)

/-- At the end of the letters the span is added. -/
theorem run_letters (sum : Duration) (n offset : Nat) (taken : List Char) {letters : List Char}
    (all : ∀ c ∈ letters, OnlyLetter c) :
    run sum (.unit n none taken) offset letters
      = addSpan sum n none (unitName (letters.reverse ++ taken)) := by
  induction letters generalizing offset taken with
  | nil => rfl
  | cons c letters ih =>
      obtain ⟨letter, digit, blank⟩ := all c List.mem_cons_self
      have step : step sum (.unit n none taken) offset c = .ok (sum, .unit n none (c :: taken)) := by
        unfold step
        simp only [letter, digit, blank]
        rfl
      rw [run, step, List.reverse_cons, List.append_assoc]
      exact ih (offset + c.utf8Size) (c :: taken) fun c listed =>
        all c (List.mem_cons_of_mem _ listed)

/-! ## §3. A span. -/

/-- The first span is the whole sum. -/
theorem addSpan_zero {n : Nat} {name : String} {u : TimeUnit} (named : TimeUnit.named? name = some u)
    (some : name ≠ "") (seconds : n * u.scale.1 < UInt64.size)
    (nanoseconds : n * u.scale.2 < UInt64.size)
    (fits : (ofParts (n * u.scale.1) (n * u.scale.2)).Fits) :
    addSpan zero n none name = .ok (ofParts (n * u.scale.1) (n * u.scale.2)) := by
  have added : plus zero (n * u.scale.1) (n * u.scale.2)
      = .ok (ofParts (n * u.scale.1) (n * u.scale.2)) := by
    have none : zero.subsecond = 0 := rfl
    have sum : (⟨zero.nanoseconds + n * u.scale.1 * perSecond + n * u.scale.2⟩ : Duration)
        = ofParts (n * u.scale.1) (n * u.scale.2) := by
      unfold ofParts zero
      rw [Nat.zero_add]
    unfold plus
    dsimp only
    rw [none, Nat.zero_add, sum, word_of_lt nanoseconds, word_of_lt fits]
    rfl
  unfold addSpan
  rw [if_neg some, named]
  dsimp only
  rw [word_of_lt seconds, word_of_lt nanoseconds]
  show (plus zero _ _ >>= fun sum => pure sum) = _
  rw [added]
  rfl

/-- The reader takes the digits, then the letters, and adds the span. -/
theorem run_span {n : Nat} {name : String} (letters : ∀ c ∈ name.toList, OnlyLetter c)
    (some : name.toList ≠ []) (number : n < UInt64.size) :
    run zero (.gap 0) 0 (Text.decimal n ++ name.toList) = addSpan zero n none name := by
  obtain ⟨d, digits, hdigits⟩ := List.exists_cons_of_ne_nil (Text.decimal_ne_nil n)
  obtain ⟨l, ls, hletters⟩ := List.exists_cons_of_ne_nil some
  have all : ∀ c ∈ d :: digits, Text.isDigit c = true := fun c listed =>
    Text.isDigit_of_mem_decimal (hdigits ▸ listed)
  have value : Text.digitsFrom (Text.digitValue d) digits = n := by
    have whole := Text.digitsFrom_decimal n
    rwa [hdigits, Text.digitsFrom_cons, Nat.mul_zero, Nat.zero_add] at whole
  -- the first digit begins the number
  have first : step zero (.gap 0) 0 d = .ok (zero, .number (Text.digitValue d)) := by
    unfold step
    dsimp only
    rw [if_pos (all d List.mem_cons_self)]
  obtain ⟨offset, later⟩ := run_digits zero (Text.digitValue d) (0 + d.utf8Size) (l :: ls)
    (fun c listed => all c (List.mem_cons_of_mem _ listed)) (value.symm ▸ number)
  -- the first letter ends it
  rw [hletters] at letters
  have behind : step zero (.number n) offset l = .ok (zero, .unit n none [l]) := by
    obtain ⟨letter, digit, blank⟩ := letters l List.mem_cons_self
    unfold step
    simp only [letter, digit, blank]
    rfl
  have name_eq : unitName (ls.reverse ++ [l]) = name := by
    unfold unitName
    rw [List.reverse_append, List.reverse_reverse, List.reverse_singleton, List.singleton_append,
      ← hletters, String.ofList_toList]
  calc run zero (.gap 0) 0 (Text.decimal n ++ name.toList)
    _ = run zero (.number (Text.digitValue d)) (0 + d.utf8Size) (digits ++ l :: ls) := by
        rw [hdigits, hletters, List.cons_append, run, first]
        rfl
    _ = run zero (.number n) offset (l :: ls) := by rw [later, value]
    _ = run zero (.unit n none [l]) (offset + l.utf8Size) ls := by
        rw [run, behind]
        rfl
    _ = addSpan zero n none name := by
        rw [run_letters zero n _ [l] fun c listed => letters c (List.mem_cons_of_mem _ listed),
          name_eq]

/-- **A number and the name of a unit are read as so many units**, if the
number and what it adds fit 64 bits. -/
theorem parse_span {n : Nat} {name : String} {u : TimeUnit} (named : TimeUnit.named? name = some u)
    (letters : ∀ c ∈ name.toList, OnlyLetter c) (some : name.toList ≠ []) (number : n < UInt64.size)
    (seconds : n * u.scale.1 < UInt64.size) (nanoseconds : n * u.scale.2 < UInt64.size)
    (fits : (ofParts (n * u.scale.1) (n * u.scale.2)).Fits) :
    parse (Text.ofNat n ++ name) = .ok (ofParts (n * u.scale.1) (n * u.scale.2)) := by
  have noBlank : ∀ c ∈ Text.decimal n ++ name.toList, Text.isBlank c = false := by
    intro c listed
    obtain digit | letter := List.mem_append.mp listed
    · exact Text.isBlank_of_isDigit (Text.isDigit_of_mem_decimal digit)
    · exact (letters c letter).2.2
  obtain ⟨d, digits, hdigits⟩ := List.exists_cons_of_ne_nil (Text.decimal_ne_nil n)
  obtain ⟨l, ls, hletters⟩ := List.exists_cons_of_ne_nil some
  have long : Text.decimal n ++ name.toList ≠ ['0'] := by
    simp [hdigits, hletters]
  have notEmpty : (Text.decimal n ++ name.toList).all Text.isBlank = false := by
    rw [hdigits, List.cons_append, List.all_cons, noBlank d (by simp [hdigits]), Bool.false_and]
  unfold parse
  rw [String.toList_append, Text.ofNat, String.toList_ofList, Text.trimChars_of_no_blank noBlank]
  unfold parseTrimmed
  rw [if_neg long, notEmpty]
  show run zero (.gap 0) 0 _ = _
  rw [run_span letters some number]
  refine addSpan_zero named ?_ seconds nanoseconds fits
  rintro rfl
  exact some rfl

/-! ## §4. The notation of the engine. -/

/-- A span that the reader can take in: a number of whole seconds, or all its
nanoseconds fit 64 bits. -/
def Readable (d : Duration) : Prop := d.subsecond = 0 ∨ d.nanoseconds < UInt64.size

/-- A span is read in a unit below the second if its nanoseconds fit. -/
theorem parse_small {d : Duration} {length : Nat} {name : String} {u : TimeUnit}
    (named : TimeUnit.named? name = some u) (scale : u.scale = (0, length))
    (letters : ∀ c ∈ name.toList, OnlyLetter c) (some : name.toList ≠ [])
    (whole : d.nanoseconds % length = 0) (small : d.nanoseconds < UInt64.size) :
    parse (Text.ofNat (d.nanoseconds / length) ++ name) = .ok d := by
  have product : d.nanoseconds / length * length = d.nanoseconds :=
    Nat.div_mul_cancel (Nat.dvd_of_mod_eq_zero whole)
  have sum : ofParts (d.nanoseconds / length * 0) (d.nanoseconds / length * length) = d := by
    unfold ofParts
    rw [product, Nat.mul_zero, Nat.zero_mul, Nat.zero_add]
  have none : d.nanoseconds / length * 0 < UInt64.size := by rw [Nat.mul_zero]; decide
  have read := parse_span (n := d.nanoseconds / length) named letters some
    (Nat.lt_of_le_of_lt (Nat.div_le_self _ _) small)
  rw [scale, sum, product] at read
  exact read none small (Nat.lt_of_le_of_lt (Nat.div_le_self _ _) small)

/-- **The text of a span is read as that span**, if it is a number of whole
seconds or its nanoseconds fit 64 bits. -/
theorem parse_engineText {d : Duration} (fits : d.Fits) (h : d.Readable) :
    parse d.engineText = .ok d := by
  unfold engineText
  dsimp only
  split
  next whole =>
    have sum : ofParts (d.seconds * 1) (d.seconds * 0) = d := by
      unfold ofParts seconds
      rw [Nat.mul_one, Nat.mul_zero, Nat.add_zero,
        Nat.div_mul_cancel (Nat.dvd_of_mod_eq_zero whole)]
    have named : TimeUnit.named? "s" = some .second := rfl
    have number : d.seconds < UInt64.size := fits
    have read := parse_span named (onlyLetters (by decide)) (by decide) number
    have product : d.seconds * 1 < UInt64.size := by rwa [Nat.mul_one]
    have none : d.seconds * 0 < UInt64.size := by rw [Nat.mul_zero]; decide
    refine (read product none ?_).trans (congrArg Except.ok sum)
    show (ofParts (d.seconds * 1) (d.seconds * 0)).Fits
    rwa [sum]
  next part =>
  -- in a smaller unit the whole span has to fit as nanoseconds
  have small : d.nanoseconds < UInt64.size := h.resolve_left part
  split
  next whole =>
    have named : TimeUnit.named? "ms" = some .millisecond := rfl
    exact parse_small named rfl (onlyLetters (by decide)) (by decide) whole small
  next =>
  split
  next whole =>
    have named : TimeUnit.named? "us" = some .microsecond := rfl
    exact parse_small named rfl (onlyLetters (by decide)) (by decide) whole small
  next =>
    have named : TimeUnit.named? "ns" = some .nanosecond := rfl
    have read := parse_small named rfl (onlyLetters (by decide)) (by decide) (Nat.mod_one _) small
    rwa [Nat.div_one] at read

/-- One nanosecond beyond a number of seconds that is no number of nanoseconds of 64 bits. -/
example : parse (ofParts 18446744074 1).engineText = .error .unrepresentable := by
  rfl

end TunnelControl.Duration
