/-
  TunnelControl.Proofs.Json.Strings
  ─────────────────────────────────
  **WHAT COMES OF A STRING DEPENDS ON ITS SPELLING ALONE.**

  Behind a spelled string anything may follow; whether the string can be read,
  and as what, is settled before its closing quote.  Skipping looks at less
  and always succeeds.  The other way round, what was read or skipped was
  spelled as the grammar allows.

    • `Quoted.value?`, `readText_quoted` — a string is read or refused,
    • `skipText_quoted`                  — it is always skipped,
    • `exists_quoted_of_readText`, `exists_quoted_of_skipText` — the converse.
-/
import TunnelControl.Proofs.Json.Tree
import TunnelControl.Proofs.Outcomes

namespace TunnelControl.Json

/-! ## §1. Codes. -/

/-- A hexadecimal digit has a value, and nothing else has. -/
theorem hexValue?_isSome_iff {c : Char} : (hexValue? c).isSome = true ↔ IsHex c := by
  unfold hexValue? IsHex
  split
  next h => exact iff_of_true rfl (.inl h)
  next hnot =>
    split
    next h => exact iff_of_true rfl (.inr (.inl h))
    next hnot' =>
      split
      next h => exact iff_of_true rfl (.inr (.inr h))
      next hnot'' => exact iff_of_false (by simp) (by simp [hnot, hnot', hnot''])

/-- Four hexadecimal digits are a code, whatever follows. -/
theorem readHexUnit_of_isHex {a b c d : Char} (hex : IsHex a ∧ IsHex b ∧ IsHex c ∧ IsHex d) :
    ∃ n, ∀ rest, readHexUnit (a :: b :: c :: d :: rest) = .ok (n, rest) := by
  simp only [← hexValue?_isSome_iff, Option.isSome_iff_exists] at hex
  obtain ⟨⟨na, ha⟩, ⟨nb, hb⟩, ⟨nc, hc⟩, ⟨nd, hd⟩⟩ := hex
  refine ⟨((na * 16 + nb) * 16 + nc) * 16 + nd, fun rest => ?_⟩
  have unit : hexUnit? (a :: b :: c :: d :: rest)
      = some (((na * 16 + nb) * 16 + nc) * 16 + nd, rest) := by
    simp only [hexUnit?, ha, hb, hc, hd, bind, Option.bind, pure]
  rw [readHexUnit, unit]

/-- What was read as a code are four hexadecimal digits. -/
theorem isHex_of_readHexUnit {cs rest : List Char} {n : Nat} (h : readHexUnit cs = .ok (n, rest)) :
    ∃ a b c d, (IsHex a ∧ IsHex b ∧ IsHex c ∧ IsHex d) ∧ cs = a :: b :: c :: d :: rest := by
  unfold readHexUnit at h
  split at h
  next r unit =>
    injection h with h
    subst h
    unfold hexUnit? at unit
    split at unit
    next a b c d more =>
      simp only [bind, Option.bind_eq_some_iff, pure, Option.some.injEq, Prod.mk.injEq] at unit
      obtain ⟨na, ha, nb, hb, nc, hc, nd, hd, -, rfl⟩ := unit
      refine ⟨a, b, c, d, ?_, rfl⟩
      simp [← hexValue?_isSome_iff, ha, hb, hc, hd]
    next => cases unit
  next =>
    split at h
    next => cases h
    next => cases h

/-- The letters of escapes, apart from `u`. -/
theorem shortEscape?_isSome_iff {c : Char} :
    (shortEscape? c).isSome = true ↔ c ∈ ['"', '\\', '/', 'b', 'f', 'n', 'r', 't'] := by
  constructor
  · intro h
    unfold shortEscape? at h
    simp only [List.mem_cons, List.not_mem_nil, or_false]
    split at h
    next hc => rcases hc with hc | hc | hc <;> simp [hc]
    next =>
      repeat' split at h
      all_goals simp_all
  · intro h
    simp only [List.mem_cons, List.not_mem_nil, or_false] at h
    rcases h with rfl | rfl | rfl | rfl | rfl | rfl | rfl | rfl <;> decide

/-! ## §2. Escapes. -/

/-- What an escape comes to, after its backslash and before a closing quote:
either it is refused, or it is read and something quotable is left. -/
inductive EscapeOutcome (tail : List Char) : Prop where
  /-- It is refused whatever follows. -/
  | refused (all : ∀ rest, (readEscape (tail ++ '"' :: rest)).toOption = none)
  /-- It is a character whatever follows. -/
  | read (c : Char) (left : List Char) (quotable : Quotable left)
      (shorter : left.length < tail.length)
      (all : ∀ rest, readEscape (tail ++ '"' :: rest) = .ok (c, left ++ '"' :: rest))

/-- A high surrogate takes the code that follows it, which has to be a low one. -/
theorem readUnicode_pair {a b c d : Char} {n : Nat}
    (code : ∀ rest, readHexUnit (a :: b :: c :: d :: rest) = .ok (n, rest))
    (high : 0xD800 ≤ n ∧ n ≤ 0xDBFF) (cs : List Char) :
    readUnicode (a :: b :: c :: d :: '\\' :: 'u' :: cs)
      = readHexUnit cs >>= fun r =>
          if r.1 < 0xDC00 ∨ 0xDFFF < r.1 then .error .malformed
          else .ok (Char.ofNat (0x10000 + (n - 0xD800) * 0x400 + (r.1 - 0xDC00)), r.2) := by
  unfold readUnicode
  rw [code]
  show (if 0xDC00 ≤ n ∧ n ≤ 0xDFFF then _ else if n < 0xD800 ∨ 0xDBFF < n then _ else _) = _
  rw [if_neg (by omega), if_neg (by omega)]
  rfl

/-- A high surrogate that no code follows is refused. -/
theorem readUnicode_alone {a b c d : Char} {n : Nat}
    (code : ∀ rest, readHexUnit (a :: b :: c :: d :: rest) = .ok (n, rest))
    (high : 0xD800 ≤ n ∧ n ≤ 0xDBFF) {rest : List Char} (alone : ∀ cs, rest ≠ '\\' :: 'u' :: cs) :
    (readUnicode (a :: b :: c :: d :: rest)).toOption = none := by
  unfold readUnicode
  rw [code]
  show Except.toOption
    (if 0xDC00 ≤ n ∧ n ≤ 0xDFFF then _ else if n < 0xD800 ∨ 0xDBFF < n then _ else _) = _
  rw [if_neg (by omega), if_neg (by omega)]
  split
  next => rfl
  next => rfl
  next cs => exact absurd rfl (alone cs)
  next => rfl

/-- An escape by a code, with what is quotable behind it. -/
theorem escapeOutcome_code {a b c d : Char} (hex : IsHex a ∧ IsHex b ∧ IsHex c ∧ IsHex d)
    {more : List Char} (h : Quotable more) :
    EscapeOutcome ('u' :: a :: b :: c :: d :: more) := by
  obtain ⟨n, code⟩ := readHexUnit_of_isHex hex
  have escape : ∀ rest, readEscape ('u' :: a :: b :: c :: d :: more ++ '"' :: rest)
      = readUnicode (a :: b :: c :: d :: (more ++ '"' :: rest)) := by
    intro rest
    simp only [List.cons_append]
    rw [readEscape, if_pos rfl]
  by_cases low : 0xDC00 ≤ n ∧ n ≤ 0xDFFF
  · -- a low surrogate does not come first
    refine .refused fun rest => ?_
    rw [escape, readUnicode, code]
    simp only [bind, Except.bind]
    rw [if_pos low]
    rfl
  by_cases high : 0xD800 ≤ n ∧ n ≤ 0xDBFF
  · cases h with
    | nil =>
        refine .refused fun rest => ?_
        rw [escape]
        exact readUnicode_alone code high fun cs he => by cases he
    | @plain e es quote slash =>
        refine .refused fun rest => ?_
        rw [escape]
        exact readUnicode_alone code high fun cs he => slash (List.cons.inj he).1
    | @short e es letter =>
        refine .refused fun rest => ?_
        rw [escape]
        refine readUnicode_alone code high fun cs he => ?_
        -- no letter of an escape is a `u`
        rw [(List.cons.inj (List.cons.inj he).2).1] at letter
        revert letter
        decide
    | @code a' b' c' d' es hex' h =>
        obtain ⟨low, code'⟩ := readHexUnit_of_isHex hex'
        have pair : ∀ rest, readEscape ('u' :: a :: b :: c :: d :: '\\' :: 'u' :: a' :: b' :: c'
              :: d' :: es ++ '"' :: rest)
            = if low < 0xDC00 ∨ 0xDFFF < low then .error .malformed
              else .ok (Char.ofNat (0x10000 + (n - 0xD800) * 0x400 + (low - 0xDC00)),
                es ++ '"' :: rest) := by
          intro rest
          rw [escape]
          simp only [List.cons_append]
          rw [readUnicode_pair code high, code']
          rfl
        by_cases range : low < 0xDC00 ∨ 0xDFFF < low
        · refine .refused fun rest => ?_
          rw [pair, if_pos range]
          rfl
        · refine .read (Char.ofNat (0x10000 + (n - 0xD800) * 0x400 + (low - 0xDC00))) es h
            (by simp only [List.length_cons]; omega) fun rest => ?_
          rw [pair, if_neg range]
  · refine .read (Char.ofNat n) more h (by simp only [List.length_cons]; omega) fun rest => ?_
    rw [escape, readUnicode, code]
    simp only [bind, Except.bind]
    rw [if_neg low, if_pos (by omega)]

/-- **What an escape comes to is settled before the closing quote.** -/
theorem escapeOutcome {tail : List Char} (h : Quotable ('\\' :: tail)) : EscapeOutcome tail := by
  cases h with
  | plain _ slash => exact absurd rfl slash
  | @short c cs letter more =>
      obtain ⟨e, he⟩ := Option.isSome_iff_exists.mp (shortEscape?_isSome_iff.mpr letter)
      have notCode : c ≠ 'u' := by
        rintro rfl
        cases he
      refine .read e cs more (Nat.lt_succ_self _) fun rest => ?_
      rw [List.cons_append, readEscape, if_neg notCode, he]
  | code hex more => exact escapeOutcome_code hex more

/-- What was read as an escape may stand in a string. -/
theorem quotable_of_readEscape {cs rest : List Char} {e : Char}
    (h : readEscape cs = .ok (e, rest)) :
    ∃ esc, cs = esc ++ rest ∧ ∀ more, Quotable more → Quotable ('\\' :: (esc ++ more)) := by
  unfold readEscape at h
  split at h
  next => cases h
  next c cs =>
    split at h
    next hc =>
      subst hc
      unfold readUnicode at h
      replace h := bind_eq_ok_iff.mp h
      obtain ⟨⟨high, cs'⟩, unit, h⟩ := h
      obtain ⟨a, b, c, d, hex, rfl⟩ := isHex_of_readHexUnit unit
      dsimp only at h
      split at h
      next => cases h
      next =>
        split at h
        next =>
          injection h with h
          injection h with _ h
          subst h
          exact ⟨['u', a, b, c, d], rfl, fun more hmore => .code hex hmore⟩
        next =>
          -- a pair of surrogates
          split at h
          next => cases h
          next => cases h
          next cs' =>
            replace h := bind_eq_ok_iff.mp h
            obtain ⟨⟨low, cs''⟩, unit', h⟩ := h
            obtain ⟨a', b', c', d', hex', rfl⟩ := isHex_of_readHexUnit unit'
            dsimp only at h
            split at h
            next => cases h
            next =>
              injection h with h
              injection h with _ h
              subst h
              exact ⟨['u', a, b, c, d, '\\', 'u', a', b', c', d'], rfl,
                fun more hmore => .code hex (.code hex' hmore)⟩
          next => cases h
    next =>
      split at h
      next e' he =>
        injection h with h
        injection h with _ h
        subst h
        have letter := shortEscape?_isSome_iff.mp (by rw [he]; rfl)
        exact ⟨[c], rfl, fun more hmore => .short letter hmore⟩
      next => cases h

/-! ## §3. Reading strings. -/

/-- **What comes of a string is settled before its closing quote.** -/
theorem readChars_quotable {raw : List Char} (h : Quotable raw) : ∃ o : Option (List Char),
    ∀ rest fuel, raw.length < fuel →
      (readChars fuel (raw ++ '"' :: rest)).toOption = o.map fun s => (s, rest) := by
  induction hn : raw.length using Nat.strongRecOn generalizing raw with
  | ind n ih =>
    cases raw with
    | nil =>
        refine ⟨some [], fun rest fuel enough => ?_⟩
        obtain ⟨m, rfl⟩ := Nat.exists_eq_add_one.mpr (Nat.zero_lt_of_lt enough)
        rw [List.nil_append, readChars, if_pos rfl]
        rfl
    | cons c cs =>
        rw [List.length_cons] at hn
        by_cases slash : c = '\\'
        · -- one escape and what is left after it
          subst slash
          rcases escapeOutcome h with refused | ⟨e, left, quotable, shorter, all⟩
          · refine ⟨none, fun rest fuel enough => ?_⟩
            obtain ⟨m, rfl⟩ := Nat.exists_eq_add_one.mpr (Nat.zero_lt_of_lt enough)
            rw [List.cons_append, readChars, if_neg (by decide), if_pos rfl, toOption_bind,
              refused]
            rfl
          · obtain ⟨o, ho⟩ := ih left.length (by omega) quotable rfl
            refine ⟨o.map (e :: ·), fun rest fuel enough => ?_⟩
            obtain ⟨m, rfl⟩ := Nat.exists_eq_add_one.mpr (Nat.zero_lt_of_lt enough)
            rw [List.cons_append, readChars, if_neg (by decide), if_pos rfl, all]
            show (readChars m (left ++ '"' :: rest) >>= _).toOption = _
            rw [toOption_bind, ho rest m (by omega)]
            cases o <;> rfl
        · cases h with
          | plain quote _ printable more =>
              obtain ⟨o, ho⟩ := ih cs.length (by omega) more rfl
              refine ⟨o.map (c :: ·), fun rest fuel enough => ?_⟩
              obtain ⟨m, rfl⟩ := Nat.exists_eq_add_one.mpr (Nat.zero_lt_of_lt enough)
              rw [List.cons_append, readChars, if_neg quote, if_neg slash, if_neg (by omega),
                toOption_bind, ho rest m (by omega)]
              cases o <;> rfl
          | short => exact absurd rfl slash
          | code => exact absurd rfl slash

/-- The string that a spelling stands for; a surrogate that stands alone is
none. -/
def Quoted.value? (s : Quoted) : Option String := (readText (s.inside ++ ['"'])).toOption.map (·.1)

/-- **A spelled string is read as what it stands for**, whatever follows it. -/
theorem readText_quoted (s : Quoted) (rest : List Char) :
    (readText (s.inside ++ '"' :: rest)).toOption = s.value?.map fun v => (v, rest) := by
  obtain ⟨o, all⟩ := readChars_quotable s.quotable
  have read : ∀ rest, (readText (s.inside ++ '"' :: rest)).toOption
      = o.map fun cs => (String.ofList cs, rest) := by
    intro rest
    unfold readText
    rw [toOption_bind, all rest _ (by rw [List.length_append, List.length_cons]; omega)]
    cases o <;> rfl
  rw [Quoted.value?, read, read]
  cases o <;> rfl

theorem quotable_of_readChars {fuel : Nat} {cs s rest : List Char}
    (h : readChars fuel cs = .ok (s, rest)) : ∃ raw, Quotable raw ∧ cs = raw ++ '"' :: rest := by
  induction fuel generalizing cs s with
  | zero => cases h
  | succ n ih =>
      cases cs with
      | nil => cases h
      | cons c cs =>
          rw [readChars] at h
          split at h
          next hc =>
            injection h with h
            injection h with _ h
            subst hc h
            exact ⟨[], .nil, rfl⟩
          next quote =>
            split at h
            next hc =>
              subst hc
              replace h := bind_eq_ok_iff.mp h
              obtain ⟨⟨e, cs'⟩, escape, h⟩ := h
              replace h := bind_eq_ok_iff.mp h
              obtain ⟨⟨t, rest'⟩, chars, h⟩ := h
              injection h with h
              injection h with _ h
              subst h
              obtain ⟨esc, rfl, allowed⟩ := quotable_of_readEscape escape
              obtain ⟨raw, quotable, rfl⟩ := ih chars
              exact ⟨'\\' :: (esc ++ raw), allowed raw quotable, by simp⟩
            next slash =>
              split at h
              next => cases h
              next printable =>
                replace h := bind_eq_ok_iff.mp h
                obtain ⟨⟨t, rest'⟩, chars, h⟩ := h
                injection h with h
                injection h with _ h
                subst h
                obtain ⟨raw, quotable, rfl⟩ := ih chars
                exact ⟨c :: raw, .plain quote slash (Nat.not_lt.mp printable) quotable, rfl⟩

/-- **What was read as a string is spelled as one.** -/
theorem exists_quoted_of_readText {cs rest : List Char} {v : String}
    (h : readText cs = .ok (v, rest)) : ∃ s : Quoted, cs = s.inside ++ '"' :: rest := by
  unfold readText at h
  replace h := bind_eq_ok_iff.mp h
  obtain ⟨⟨t, rest'⟩, chars, h⟩ := h
  injection h with h
  injection h with _ h
  subst h
  obtain ⟨raw, quotable, rfl⟩ := quotable_of_readChars chars
  exact ⟨⟨raw, quotable⟩, rfl⟩

/-! ## §4. Skipping strings. -/

theorem skipText_quotable {raw : List Char} (h : Quotable raw) (rest : List Char) (fuel : Nat)
    (enough : raw.length < fuel) : skipText fuel (raw ++ '"' :: rest) = .ok rest := by
  induction h generalizing fuel with
  | nil =>
      obtain ⟨n, rfl⟩ := Nat.exists_eq_add_one.mpr (Nat.zero_lt_of_lt enough)
      rw [List.nil_append, skipText.eq_def]
      exact if_pos rfl
  | plain quote slash printable more ih =>
      obtain ⟨n, rfl⟩ := Nat.exists_eq_add_one.mpr (Nat.zero_lt_of_lt enough)
      rw [List.length_cons] at enough
      rw [List.cons_append, skipText.eq_def]
      dsimp only
      rw [if_neg quote, if_neg slash, if_neg (by omega)]
      exact ih n (by omega)
  | @short c cs letter more ih =>
      obtain ⟨n, rfl⟩ := Nat.exists_eq_add_one.mpr (Nat.zero_lt_of_lt enough)
      simp only [List.length_cons] at enough
      have some := shortEscape?_isSome_iff.mpr letter
      rw [List.cons_append, List.cons_append, skipText.eq_def]
      dsimp only
      rw [if_neg (by decide), if_pos rfl]
      split
      next he => cases he
      next he =>
        -- no letter of an escape is a `u`
        rw [(List.cons.inj he).1] at some
        cases some
      next he =>
        obtain ⟨rfl, rfl⟩ := List.cons.inj he
        rw [if_pos some]
        exact ih n (by omega)
  | code hex more ih =>
      obtain ⟨n, rfl⟩ := Nat.exists_eq_add_one.mpr (Nat.zero_lt_of_lt enough)
      simp only [List.length_cons] at enough
      obtain ⟨unit, code⟩ := readHexUnit_of_isHex hex
      simp only [List.cons_append]
      rw [skipText.eq_def]
      dsimp only
      rw [if_neg (by decide), if_pos rfl]
      show (readHexUnit _ >>= _) = _
      rw [code]
      exact ih n (by omega)

/-- **A spelled string is skipped**, whatever follows it. -/
theorem skipText_quoted (s : Quoted) (rest : List Char) (fuel : Nat)
    (enough : s.inside.length < fuel) : skipText fuel (s.inside ++ '"' :: rest) = .ok rest :=
  skipText_quotable s.quotable rest fuel enough

/-- **What was skipped as a string is spelled as one.** -/
theorem exists_quoted_of_skipText {fuel : Nat} {cs rest : List Char}
    (h : skipText fuel cs = .ok rest) : ∃ s : Quoted, cs = s.inside ++ '"' :: rest := by
  suffices ∃ raw, Quotable raw ∧ cs = raw ++ '"' :: rest by
    obtain ⟨raw, quotable, rfl⟩ := this
    exact ⟨⟨raw, quotable⟩, rfl⟩
  induction fuel generalizing cs with
  | zero => cases h
  | succ n ih =>
      cases cs with
      | nil => cases h
      | cons c cs =>
          rw [skipText.eq_def] at h
          dsimp only at h
          split at h
          next hc =>
            injection h with h
            subst hc h
            exact ⟨[], .nil, rfl⟩
          next quote =>
            split at h
            next hc =>
              subst hc
              split at h
              next => cases h
              next cs =>
                replace h := bind_eq_ok_iff.mp h
                obtain ⟨⟨unit, cs'⟩, code, h⟩ := h
                obtain ⟨a, b, c, d, hex, rfl⟩ := isHex_of_readHexUnit code
                obtain ⟨raw, quotable, rfl⟩ := ih h
                exact ⟨_, .code hex quotable, rfl⟩
              next e cs _ =>
                split at h
                next letter =>
                  obtain ⟨raw, quotable, rfl⟩ := ih h
                  exact ⟨_, .short (shortEscape?_isSome_iff.mp letter) quotable, rfl⟩
                next => cases h
            next slash =>
              split at h
              next => cases h
              next printable =>
                obtain ⟨raw, quotable, rfl⟩ := ih h
                exact ⟨c :: raw, .plain quote slash (Nat.not_lt.mp printable) quotable, rfl⟩

end TunnelControl.Json
