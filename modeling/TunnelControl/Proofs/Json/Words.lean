/-
  TunnelControl.Proofs.Json.Words
  ───────────────────────────────
  **A WORD OF A JSON TEXT IS READ BACK.**

  Strings and whole numbers, as they are written, are read back with the text
  that follows them left over.  A number has no closing mark, so what follows
  must not continue it.

    • `skipSpaces_append`, `readColon_append` — blanks before a word or a colon,
    • `readText_quote`                        — a string,
    • `Ends`, `Whole`, `readMagnitude_whole`  — digits and what may follow them,
    • `readNumber_signed`                     — a whole number as it is written.
-/
import TunnelControl.Json.Codec
import TunnelControl.Proofs.Text.Decimal

namespace TunnelControl.Json

/-! ## §1. Blanks. -/

/-- Nothing but blanks. -/
def Spaces (cs : List Char) : Prop := ∀ c ∈ cs, isSpace c = true

theorem spaces_nil : Spaces [] := by
  intro c hc
  cases hc

theorem skipSpaces_append {ws : List Char} (h : Spaces ws) (cs : List Char) :
    skipSpaces (ws ++ cs) = skipSpaces cs := by
  induction ws with
  | nil => rfl
  | cons w ws ih =>
      have hw : isSpace w = true := h w List.mem_cons_self
      have hws : Spaces ws := fun c hc => h c (List.mem_cons_of_mem w hc)
      rw [List.cons_append, skipSpaces, List.dropWhile_cons_of_pos hw]
      exact ih hws

theorem skipSpaces_cons {c : Char} (h : isSpace c = false) (cs : List Char) :
    skipSpaces (c :: cs) = c :: cs := by
  rw [skipSpaces, List.dropWhile_cons_of_neg (by simp [h])]

theorem skipSpaces_append_cons {ws : List Char} (h : Spaces ws) {c : Char}
    (blank : isSpace c = false) (cs : List Char) : skipSpaces (ws ++ c :: cs) = c :: cs := by
  rw [skipSpaces_append h, skipSpaces_cons blank]

theorem readWord_append (ws cs : List Char) : readWord ws (ws ++ cs) = .ok cs := by
  induction ws with
  | nil => rfl
  | cons w ws ih =>
      rw [List.cons_append, readWord, if_pos rfl]
      exact ih

theorem readColon_append {ws : List Char} (h : Spaces ws) (cs : List Char) :
    readColon (ws ++ ':' :: cs) = .ok cs := by
  unfold readColon
  rw [skipSpaces_append h, skipSpaces_cons (by decide)]
  rfl

/-! ## §2. Strings. -/

theorem hexValue?_hexDigit {n : Nat} (h : n < 16) : hexValue? (hexDigit n) = some n := by
  have all : ∀ k : Fin 16, hexValue? (hexDigit k) = some k.val := by decide
  exact all ⟨n, h⟩

/-- A control character is escaped by the number of its code. -/
theorem readUnicode_control {n : Nat} (h : n < 0x20) (cs : List Char) :
    readUnicode ('0' :: '0' :: hexDigit (n / 16) :: hexDigit (n % 16) :: cs)
      = .ok (Char.ofNat n, cs) := by
  have hz : hexValue? '0' = some 0 := by decide
  have hhigh := hexValue?_hexDigit (n := n / 16) (by omega)
  have hlow := hexValue?_hexDigit (n := n % 16) (by omega)
  have hunit : hexUnit? ('0' :: '0' :: hexDigit (n / 16) :: hexDigit (n % 16) :: cs)
      = some (n, cs) := by
    simp only [hexUnit?, hz, hhigh, hlow, bind, Option.bind, pure]
    have hn : ((0 * 16 + 0) * 16 + n / 16) * 16 + n % 16 = n := by omega
    rw [hn]
  have hread : readHexUnit ('0' :: '0' :: hexDigit (n / 16) :: hexDigit (n % 16) :: cs)
      = .ok (n, cs) := by
    rw [readHexUnit, hunit]
  unfold readUnicode
  rw [hread]
  show (if 0xDC00 ≤ n ∧ n ≤ 0xDFFF then _ else if n < 0xD800 ∨ 0xDBFF < n then _ else _) = _
  rw [if_neg (by omega), if_pos (by omega)]

/-- Reading a string takes one character at a time, escaped or not. -/
theorem readChars_escape (c : Char) (fuel : Nat) (cs : List Char) :
    readChars (fuel + 1) (escape c ++ cs)
      = (readChars fuel cs).map fun r => (c :: r.1, r.2) := by
  have hshort : ∀ e d : Char, e ≠ 'u' → shortEscape? e = some d →
      readChars (fuel + 1) ('\\' :: e :: cs)
        = (readChars fuel cs).map fun r => (d :: r.1, r.2) := by
    intro e d hu hd
    rw [readChars, if_neg (by decide), if_pos rfl, readEscape, if_neg hu, hd]
    rfl
  unfold escape
  -- seven characters have a letter of their own
  split
  next h => exact h ▸ hshort '"' '"' (by decide) (by decide)
  next hquote =>
  split
  next h => exact h ▸ hshort '\\' '\\' (by decide) (by decide)
  next hslash =>
  split
  next h => exact h ▸ hshort 'b' '\x08' (by decide) (by decide)
  next =>
  split
  next h => exact h ▸ hshort 'f' '\x0c' (by decide) (by decide)
  next =>
  split
  next h => exact h ▸ hshort 'n' '\n' (by decide) (by decide)
  next =>
  split
  next h => exact h ▸ hshort 'r' '\r' (by decide) (by decide)
  next =>
  split
  next h => exact h ▸ hshort 't' '\t' (by decide) (by decide)
  next =>
  split
  next h =>
    -- the other control characters are written by their code
    have hread := readUnicode_control h cs
    rw [Char.ofNat_toNat] at hread
    simp only [List.cons_append, List.nil_append]
    rw [readChars, if_neg (by decide), if_pos rfl, readEscape, if_pos rfl, hread]
    rfl
  next h =>
    rw [List.singleton_append, readChars, if_neg hquote, if_neg hslash, if_neg h]
    rfl

theorem readChars_quote (s rest : List Char) (fuel : Nat) (h : s.length < fuel) :
    readChars fuel (s.flatMap escape ++ '"' :: rest) = .ok (s, rest) := by
  induction s generalizing fuel with
  | nil =>
      obtain ⟨n, rfl⟩ := Nat.exists_eq_add_one.mpr (Nat.zero_lt_of_lt h)
      rw [List.flatMap_nil, List.nil_append, readChars, if_pos rfl]
  | cons c s ih =>
      obtain ⟨n, rfl⟩ := Nat.exists_eq_add_one.mpr (Nat.zero_lt_of_lt h)
      rw [List.length_cons] at h
      rw [List.flatMap_cons, List.append_assoc, readChars_escape, ih n (by omega)]
      rfl

theorem escape_ne_nil (c : Char) : escape c ≠ [] := by
  unfold escape
  repeat' split
  all_goals simp

/-- Escaping makes a string no shorter. -/
theorem length_le_length_escape (s : List Char) : s.length ≤ (s.flatMap escape).length := by
  induction s with
  | nil => exact Nat.le_refl 0
  | cons c s ih =>
      have hc : 0 < (escape c).length := List.length_pos_iff.mpr (escape_ne_nil c)
      rw [List.flatMap_cons, List.length_append, List.length_cons]
      omega

/-- **A string is read back**, whatever follows it. -/
theorem readText_quote (s : String) (rest : List Char) :
    readText ((quote s).tail ++ rest) = .ok (s, rest) := by
  have hle := length_le_length_escape s.toList
  have hread := readChars_quote s.toList rest
    ((s.toList.flatMap escape ++ '"' :: rest).length + 1) (by rw [List.length_append]; omega)
  have htail : (quote s).tail ++ rest = s.toList.flatMap escape ++ '"' :: rest := by
    simp [quote]
  unfold readText
  rw [htail, hread]
  show Except.ok (String.ofList s.toList, rest) = _
  rw [String.ofList_toList]

/-! ## §3. Whole numbers. -/

/-- A character that would continue a number. -/
def continuesNumber (c : Char) : Bool := Text.isDigit c || c == '.' || c == 'e' || c == 'E'

/-- A number ends before this text. -/
def Ends (rest : List Char) : Prop := ∀ c ∈ rest.head?, continuesNumber c = false

theorem ends_nil : Ends [] := by
  intro c hc
  cases hc

theorem ends_cons {c : Char} (h : continuesNumber c = false) (cs : List Char) : Ends (c :: cs) := by
  intro d hd
  cases hd
  exact h

/-- Blanks end a number. -/
theorem ends_append {ws : List Char} (h : Spaces ws) {cs : List Char} (hcs : Ends cs) :
    Ends (ws ++ cs) := by
  cases ws with
  | nil => exact hcs
  | cons w ws =>
      have hw : isSpace w = true := h w List.mem_cons_self
      refine ends_cons ?_ (ws ++ cs)
      simp only [isSpace, Bool.or_eq_true, beq_iff_eq] at hw
      rcases hw with ((rfl | rfl) | rfl) | rfl <;> decide

/-- All digits are added as long as the number stays below the limit. -/
theorem absorb_append (limit : Nat) {ds rest : List Char}
    (digits : ∀ c ∈ ds, Text.isDigit c = true) (ends : Ends rest) (s count : Nat)
    (below : Text.digitsFrom s ds < limit) :
    absorb limit s count (ds ++ rest) = (Text.digitsFrom s ds, count + ds.length, rest) := by
  induction ds generalizing s count with
  | nil =>
      cases rest with
      | nil => rfl
      | cons c cs =>
          have hc : continuesNumber c = false := ends c rfl
          have hd : Text.isDigit c = false := by
            simp only [continuesNumber, Bool.or_eq_false_iff] at hc
            exact hc.1.1.1
          simp [absorb, hd]
  | cons d ds ih =>
      have hd : Text.isDigit d = true := digits d List.mem_cons_self
      have hds : ∀ c ∈ ds, Text.isDigit c = true :=
        fun c hc => digits c (List.mem_cons_of_mem d hc)
      rw [Text.digitsFrom_cons] at below ⊢
      -- the number read so far is no larger than the whole
      have hnext : 10 * s + Text.digitValue d < limit :=
        Nat.lt_of_le_of_lt (Text.le_digitsFrom _ ds) below
      rw [List.cons_append, absorb, if_pos ⟨hd, hnext⟩, ih hds _ _ below, List.length_cons]
      congr 2
      omega

/-- One digit or more. -/
structure Digits (ds : List Char) : Prop where
  /-- There is one. -/
  ne_nil : ds ≠ []
  /-- There is nothing else. -/
  all : ∀ c ∈ ds, Text.isDigit c = true

/-- The digits before a point: a zero does not lead others. -/
structure Whole (ds : List Char) : Prop extends Digits ds where
  /-- A zero at the head stands alone. -/
  zero : ds.head? = some '0' → ds = ['0']

theorem Digits.head {ds : List Char} (h : Digits ds) :
    ∃ c cs, ds = c :: cs ∧ Text.isDigit c = true := by
  cases ds with
  | nil => exact absurd rfl h.ne_nil
  | cons c cs => exact ⟨c, cs, rfl, h.all c List.mem_cons_self⟩

/-- Digits whose number fits into 64 bits are all read, if nothing continues
them. -/
theorem readMagnitude_whole (negative : Bool) {ds rest : List Char} (whole : Whole ds)
    (fits : Text.digitsFrom 0 ds < UInt64.size) (ends : Ends rest) :
    readMagnitude negative (ds ++ rest)
      = .ok (readMagnitude.whole negative (Text.digitsFrom 0 ds), rest) := by
  have read := absorb_append UInt64.size whole.all ends 0 0 fits
  obtain ⟨c, cs, rfl, digit⟩ := whole.head
  -- a leading zero is taken alone, which is the whole numeral then
  have taken : ∃ count, (if c = '0' then (0, 1, cs ++ rest)
      else absorb UInt64.size 0 0 (c :: (cs ++ rest)))
      = (Text.digitsFrom 0 (c :: cs), count, rest) := by
    split
    next hc =>
      rw [hc] at whole ⊢
      injection whole.zero rfl with _ hcs
      subst hcs
      exact ⟨1, rfl⟩
    next => exact ⟨_, read⟩
  obtain ⟨count, taken⟩ := taken
  rw [List.cons_append, readMagnitude]
  simp only [digit, taken, Bool.not_true, Bool.false_eq_true, if_false]
  cases rest with
  | nil => rfl
  | cons d more =>
      -- what follows is no point, no exponent and no digit
      have hd : continuesNumber d = false := ends d rfl
      simp only [continuesNumber, Bool.or_eq_false_iff, beq_eq_false_iff_ne] at hd
      obtain ⟨⟨⟨hdigit, hpoint⟩, he⟩, hE⟩ := hd
      split
      next h => exact absurd (List.cons.inj h).1 hpoint
      next h =>
        injection h with h
        subst h
        rw [if_neg (by simp [he, hE]), if_neg (by simp [hdigit])]
      next h => cases h

/-! ## §4. Whole numbers as they are written. -/

theorem whole_decimal (n : Nat) : Whole (Text.decimal n) where
  ne_nil := Text.decimal_ne_nil n
  all := fun _ hc => Text.isDigit_of_mem_decimal hc
  zero := by
    intro head
    obtain ⟨cs, hc⟩ := List.head?_eq_some_iff.mp head
    obtain ⟨rfl, rfl⟩ := Text.decimal_head_zero hc
    exact hc

/-- A number without sign is read to its end. -/
theorem readMagnitude_decimal (negative : Bool) {n : Nat} (hn : n < UInt64.size) {rest : List Char}
    (ends : Ends rest) :
    readMagnitude negative (Text.decimal n ++ rest)
      = .ok (readMagnitude.whole negative n, rest) := by
  have fits : Text.digitsFrom 0 (Text.decimal n) < UInt64.size := by rwa [Text.digitsFrom_decimal]
  rw [readMagnitude_whole negative (whole_decimal n) fits ends, Text.digitsFrom_decimal]

/-- The sign of a number and its magnitude. -/
theorem readNumber_cons (c : Char) (cs : List Char) :
    readNumber (c :: cs)
      = if c = '-' then readMagnitude true cs else readMagnitude false (c :: cs) := by
  unfold readNumber
  split
  next he =>
    injection he with hc hcs
    rw [if_pos hc, hcs]
  next other =>
    rw [if_neg]
    intro hc
    exact other cs (by rw [hc])

/-- Without a minus sign, reading begins with the digits. -/
theorem readNumber_digits {ds : List Char} (digits : Digits ds) (rest : List Char) :
    readNumber (ds ++ rest) = readMagnitude false (ds ++ rest) := by
  obtain ⟨c, cs, rfl, digit⟩ := digits.head
  rw [List.cons_append, readNumber_cons, if_neg]
  rintro rfl
  cases digit

theorem whole_of_neg {i : Int} (neg : i < 0) (low : Int64.minValue.toInt ≤ i) :
    readMagnitude.whole true i.natAbs = .integer i := by
  have hlow : Int64.minValue.toInt = -9223372036854775808 := by decide
  have hpow : Nat.pow 2 63 = 9223372036854775808 := by decide
  unfold readMagnitude.whole
  rw [if_neg (by decide), if_neg (by omega)]
  congr 1
  omega

theorem whole_of_nonneg {i : Int} (nonneg : 0 ≤ i) :
    readMagnitude.whole false i.natAbs = .integer i := by
  unfold readMagnitude.whole
  rw [if_pos (by decide)]
  congr 1
  omega

/-- **A whole number of at most 64 bits is read back**, if nothing continues
it. -/
theorem readNumber_signed {i : Int} (low : Int64.minValue.toInt ≤ i) (high : i < UInt64.size)
    {rest : List Char} (ends : Ends rest) :
    readNumber (Text.signedDecimal i ++ rest) = .ok (.integer i, rest) := by
  have hlow : Int64.minValue.toInt = -9223372036854775808 := by decide
  have hhigh : UInt64.size = 18446744073709551616 := rfl
  have hsize : i.natAbs < UInt64.size := by omega
  unfold Text.signedDecimal
  split
  next neg =>
    rw [List.cons_append, readNumber, readMagnitude_decimal true hsize ends, whole_of_neg neg low]
  next nonneg =>
    rw [readNumber_digits (whole_decimal _).toDigits, readMagnitude_decimal false hsize ends,
      whole_of_nonneg (by omega)]

end TunnelControl.Json
