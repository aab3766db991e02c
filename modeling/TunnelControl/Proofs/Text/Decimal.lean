/-
  TunnelControl.Proofs.Text.Decimal
  ─────────────────────────────────
  **A NUMBER IS READ BACK FROM ITS DIGITS.**

  The numerals that this library writes are runs of ASCII digits without
  leading zeros; reading adds one digit at a time.

    • `isDigit_of_mem_decimal`, `decimal_head_zero` — what is written,
    • `digitsFrom`, `digitsFrom_decimal`            — what is read,
    • `digits?_decimal`, `natural?_decimal`, `naturalUpTo?_ofNat` — the whole numeral.
-/
import TunnelControl.Text.Numeral

namespace TunnelControl.Text

theorem isDigit_eq (c : Char) : isDigit c = c.isDigit := rfl

/-! ## §1. The digits that are written. -/

theorem isDigit_of_mem_decimal {n : Nat} {c : Char} (h : c ∈ decimal n) : isDigit c = true := by
  rw [isDigit_eq]
  exact Nat.isDigit_of_mem_toDigits (by omega) (by omega) h

theorem decimal_ne_nil (n : Nat) : decimal n ≠ [] := Nat.toDigits_ne_nil

/-- Only the numeral of zero begins with a zero. -/
theorem decimal_head_zero {n : Nat} {cs : List Char} (h : decimal n = '0' :: cs) :
    n = 0 ∧ cs = [] := by
  induction n using Nat.strongRecOn generalizing cs with
  | ind n ih =>
    unfold decimal at h
    by_cases hn : n < 10
    · rw [Nat.toDigits_of_lt_base hn] at h
      injection h with hd hc
      -- ten digits, of which one is a zero
      have : n = 0 := by
        have all : ∀ k : Fin 10, Nat.digitChar k = '0' → k.val = 0 := by decide
        exact all ⟨n, hn⟩ hd
      exact ⟨this, hc.symm⟩
    · rw [Nat.toDigits_of_base_le (by omega) (by omega)] at h
      cases hq : Nat.toDigits 10 (n / 10) with
      | nil => exact absurd hq Nat.toDigits_ne_nil
      | cons d ds =>
          rw [hq, List.cons_append] at h
          injection h with hd hc
          subst hd
          have hz := (ih (n / 10) (by omega) hq).1
          omega

/-! ## §2. The number that is read. -/

/-- The number that a run of digits makes of one that was read before it. -/
def digitsFrom (n : Nat) (cs : List Char) : Nat :=
  cs.foldl (fun n c => 10 * n + digitValue c) n

@[simp] theorem digitsFrom_nil (n : Nat) : digitsFrom n [] = n := rfl

@[simp] theorem digitsFrom_cons (n : Nat) (c : Char) (cs : List Char) :
    digitsFrom n (c :: cs) = digitsFrom (10 * n + digitValue c) cs := by
  unfold digitsFrom
  rw [List.foldl_cons]

/-- Further digits make a number no smaller. -/
theorem le_digitsFrom (n : Nat) (cs : List Char) : n ≤ digitsFrom n cs := by
  induction cs generalizing n with
  | nil => exact Nat.le_refl n
  | cons c cs ih =>
      rw [digitsFrom_cons]
      have h := ih (10 * n + digitValue c)
      omega

theorem digitsFrom_eq (n : Nat) (cs : List Char) : digitsFrom n cs = Nat.ofDigitChars 10 cs n := by
  induction cs generalizing n with
  | nil => rw [digitsFrom_nil, Nat.ofDigitChars_nil]
  | cons c cs ih =>
      rw [digitsFrom_cons, ih, Nat.ofDigitChars_cons]
      rfl

theorem digitsFrom_decimal (n : Nat) : digitsFrom 0 (decimal n) = n := by
  rw [digitsFrom_eq, decimal]
  exact Nat.ofDigitChars_ten_toDigits

/-- **The digits of a number are read as that number.** -/
theorem digits?_decimal (n : Nat) : digits? (decimal n) = some n := by
  have all : (decimal n).all isDigit = true := by
    rw [List.all_eq_true]
    intro c hc
    exact isDigit_of_mem_decimal hc
  have some : (decimal n).isEmpty = false := by
    rw [List.isEmpty_eq_false_iff]
    exact decimal_ne_nil n
  unfold digits?
  rw [all, some]
  exact congrArg Option.some (digitsFrom_decimal n)

/-- A numeral without a sign is read likewise. -/
theorem natural?_decimal (n : Nat) : natural? (decimal n) = some n := by
  unfold natural?
  split
  next cs signed =>
    have listed : '+' ∈ decimal n := by
      rw [signed]
      exact List.mem_cons_self
    cases isDigit_of_mem_decimal listed
  next => exact digits?_decimal n

theorem naturalUpTo?_ofNat {n bound : Nat} (h : n ≤ bound) :
    naturalUpTo? bound (ofNat n) = some n := by
  unfold naturalUpTo? ofNat
  rw [String.toList_ofList, natural?_decimal]
  exact Option.filter_some_pos (decide_eq_true h)

end TunnelControl.Text
