/-
  TunnelControl.Proofs.Json.Uniform
  ─────────────────────────────────
  **WHAT IS READ IS SETTLED BY THE TREE.**

  A reader goes through a text from left to right and stops at the first
  problem.  All the same, whether it yields a value, and which, depends on the
  tree of the text alone: not on its blanks and not on what follows.  So each
  codec gives every tree a meaning, or none.  And nothing is read that is not
  the text of a tree.

    • `Codec.Uniform`, `Codec.meaning`   — the property and the meaning,
    • `Uniform.reads`, `meaning_eq`      — the two agree,
    • `text_uniform`, `boolean_uniform`, `integer_uniform`, `list_uniform`,
      `optional_uniform`                 — the codecs that have it,
    • `Uniform.decode_eq_ok_iff`, `Uniform.exists_tree` — whole texts.
-/
import TunnelControl.Proofs.Json.Lawful
import TunnelControl.Proofs.Json.Skipping

namespace TunnelControl.Json

namespace Codec

variable {α : Type}

/-! ## §1. The meaning of a tree. -/

/-- The value that a codec reads from a tree. -/
def meaning (codec : Codec α) (t : Tree) : Option α := (codec.read t.compact).toOption.map (·.1)

/-- A codec reads from each text of a tree the same. -/
structure Uniform (codec : Codec α) : Prop where
  /-- Blanks before a value are skipped. -/
  blanks : ∀ ws cs, Spaces ws → codec.read (ws ++ cs) = codec.read cs
  /-- The tree settles what is read, and what follows is left over. -/
  settled : ∀ t, ∃ o : Option α, ∀ u rest, Writes t u → Ends rest →
    (codec.read (u ++ rest)).toOption = o.map fun a => (a, rest)
  /-- What was read is the text of a tree. -/
  parses : ∀ cs a rest, codec.read cs = .ok (a, rest) →
    ∃ ws t u, Spaces ws ∧ Writes t u ∧ cs = ws ++ (u ++ rest)

/-- What the texts of a tree are read as is its meaning. -/
theorem meaning_eq {codec : Codec α} {t : Tree} {o : Option α}
    (settled : ∀ u rest, Writes t u → Ends rest →
      (codec.read (u ++ rest)).toOption = o.map fun a => (a, rest)) : codec.meaning t = o := by
  have read := settled t.compact [] (writes_compact t) ends_nil
  rw [List.append_nil] at read
  rw [meaning, read]
  cases o <;> rfl

/-- **A tree is read as its meaning from each of its texts.** -/
theorem Uniform.reads {codec : Codec α} (h : codec.Uniform) {t : Tree} {u rest : List Char}
    (text : Writes t u) (ends : Ends rest) :
    (codec.read (u ++ rest)).toOption = (codec.meaning t).map fun a => (a, rest) := by
  obtain ⟨o, settled⟩ := h.settled t
  rw [meaning_eq settled, settled u rest text ends]

/-- A tree is refused if it is by its first character. -/
theorem settled_of_refused {codec : Codec α} {t : Tree}
    (refused : ∀ c cs, Head t c → (codec.read (c :: cs)).toOption = none) :
    ∃ o : Option α, ∀ u rest, Writes t u → Ends rest →
      (codec.read (u ++ rest)).toOption = o.map fun a => (a, rest) := by
  refine ⟨none, fun u rest h _ => ?_⟩
  obtain ⟨c, cs, rfl, head⟩ := h.head
  exact refused c (cs ++ rest) head

theorem mismatch_toOption (expected : String) (c : Char) (cs : List Char) :
    (mismatch expected c cs : Except ReadError α).toOption = none := by
  unfold mismatch
  split
  next => rfl
  next => rfl

/-- A value of another kind is not read. -/
theorem mismatch_ne_ok {expected : String} {c : Char} {cs : List Char} {a : α} :
    (mismatch expected c cs : Except ReadError α) ≠ .ok a := by
  intro h
  have none := mismatch_toOption (α := α) expected c cs
  rw [h] at none
  cases none

/-! ## §2. Strings and truth values. -/

theorem text_read_cons {c : Char} (blank : isSpace c = false) (cs : List Char) :
    text.read (c :: cs) = if c = '"' then readText cs else mismatch "a string" c cs := by
  unfold text
  dsimp only
  rw [skipSpaces_cons blank]

/-- Only a string begins with a quote. -/
theorem text_refused {t : Tree} (other : ∀ s, t ≠ .text s) (c : Char) (cs : List Char)
    (head : Head t c) : (text.read (c :: cs)).toOption = none := by
  rw [text_read_cons head.ne.1, if_neg (head.ne_quote other)]
  exact mismatch_toOption _ _ _

theorem text_uniform : text.Uniform where
  blanks := text_lawful.blanks
  settled := by
    intro t
    cases t with
    | text s =>
        refine ⟨s.value?, fun u rest h _ => ?_⟩
        cases h
        rw [s.chars_append, text_read_cons (by decide), if_pos rfl]
        exact readText_quoted s rest
    | word w => exact settled_of_refused (text_refused (by simp))
    | sequence ts => exact settled_of_refused (text_refused (by simp))
    | record ms => exact settled_of_refused (text_refused (by simp))
  parses := by
    intro cs a rest h
    unfold text at h
    dsimp only at h
    split at h
    next => cases h
    next c cs' next =>
      obtain ⟨ws, blank, rfl⟩ := exists_spaces_of_cons next
      split at h
      next hc =>
        obtain ⟨s, rfl⟩ := exists_quoted_of_readText h
        rw [hc]
        exact ⟨ws, .text s, _, blank, .text s, by rw [s.chars_append]⟩
      next => exact absurd h mismatch_ne_ok

theorem boolean_read_cons {c : Char} (blank : isSpace c = false) (cs : List Char) :
    boolean.read (c :: cs)
      = if c = 't' then (readWord ['r', 'u', 'e'] cs).map (true, ·)
        else if c = 'f' then (readWord ['a', 'l', 's', 'e'] cs).map (false, ·)
        else mismatch "a boolean" c cs := by
  unfold boolean
  dsimp only
  rw [skipSpaces_cons blank]

/-- Nothing but a literal is a truth value. -/
theorem boolean_refused {c : Char} (yes : c ≠ 't') (no : c ≠ 'f') (blank : isSpace c = false)
    (cs : List Char) : (boolean.read (c :: cs)).toOption = none := by
  rw [boolean_read_cons blank, if_neg yes, if_neg no]
  exact mismatch_toOption _ _ _

theorem boolean_uniform : boolean.Uniform where
  blanks := boolean_lawful.blanks
  settled := by
    intro t
    cases t with
    | word w =>
        rcases w.literal_or_number with he | he | he | ⟨c, cs, he, head⟩
        · refine ⟨none, fun u rest h _ => ?_⟩
          cases h
          rw [he]
          exact boolean_refused (by decide) (by decide) (by decide) _
        · refine ⟨some true, fun u rest h _ => ?_⟩
          cases h
          rw [he]
          exact congrArg (fun r => (Except.map (true, ·) r).toOption)
            (readWord_append ['r', 'u', 'e'] rest)
        · refine ⟨some false, fun u rest h _ => ?_⟩
          cases h
          rw [he]
          exact congrArg (fun r => (Except.map (false, ·) r).toOption)
            (readWord_append ['a', 'l', 's', 'e'] rest)
        · refine ⟨none, fun u rest h _ => ?_⟩
          cases h
          rw [he]
          exact boolean_refused (numberHead_ne head (by decide)) (numberHead_ne head (by decide))
            (numberHead_isSpace head) _
    | text s =>
        refine settled_of_refused fun c cs head => ?_
        cases head
        exact boolean_refused (by decide) (by decide) (by decide) cs
    | sequence ts =>
        refine settled_of_refused fun c cs head => ?_
        cases head
        exact boolean_refused (by decide) (by decide) (by decide) cs
    | record ms =>
        refine settled_of_refused fun c cs head => ?_
        cases head
        exact boolean_refused (by decide) (by decide) (by decide) cs
  parses := by
    intro cs a rest h
    unfold boolean at h
    dsimp only at h
    split at h
    next => cases h
    next c cs' next =>
      obtain ⟨ws, blank, rfl⟩ := exists_spaces_of_cons next
      split at h
      next hc =>
        obtain ⟨rest', word, he⟩ := map_eq_ok_iff.mp h
        injection he with _ he
        subst he hc
        rw [eq_append_of_readWord word]
        exact ⟨ws, .word ⟨_, .yes⟩, _, blank, .word _, rfl⟩
      next =>
        split at h
        next hc =>
          obtain ⟨rest', word, he⟩ := map_eq_ok_iff.mp h
          injection he with _ he
          subst he hc
          rw [eq_append_of_readWord word]
          exact ⟨ws, .word ⟨_, .no⟩, _, blank, .word _, rfl⟩
        next => exact absurd h mismatch_ne_ok

/-! ## §3. Whole numbers. -/

/-- **Whether a number is a whole one of 64 bits, and which, is settled by its
characters.** -/
theorem readMagnitude_magnitude_iff {negative : Bool} {u : List Char} (h : Magnitude u)
    {rest : List Char} (ends : Ends rest) {i : Int} {r : List Char} :
    readMagnitude negative (u ++ rest) = .ok (.integer i, r)
      ↔ r = rest ∧ Whole u ∧ Text.digitsFrom 0 u < UInt64.size
        ∧ readMagnitude.whole negative (Text.digitsFrom 0 u) = .integer i := by
  rw [readMagnitude_integer_iff]
  constructor
  · rintro ⟨ds, whole, split, stops, fits, hi⟩
    cases h with
    | @mk ds' fs ps whole' fraction power =>
        rw [List.append_assoc, List.append_assoc] at split
        obtain ⟨rfl, hr⟩ := digits_split whole'.all whole.all
          (fraction.noDigit (power.noDigit ends)) stops.noDigit split
        -- a point or a mark would continue the digits
        rw [← hr] at stops
        cases fraction with
        | some => exact absurd (stops '.' rfl) (by decide)
        | none =>
            cases power with
            | none => simp_all
            | some marks =>
                rcases marks with rfl | rfl
                · exact absurd (stops 'e' rfl) (by decide)
                · exact absurd (stops 'E' rfl) (by decide)
  · rintro ⟨rfl, whole, fits, hi⟩
    exact ⟨u, whole, rfl, ends, fits, hi⟩

/-- A number without sign begins with a digit. -/
theorem readNumber_magnitude {u : List Char} (h : Magnitude u) (rest : List Char) :
    readNumber (u ++ rest) = readMagnitude false (u ++ rest) := by
  cases h with
  | mk whole =>
      rw [List.append_assoc]
      exact readNumber_digits whole.toDigits _

/-- A magnitude is a whole number of 64 bits behind its sign, or it is none. -/
theorem exists_integer_of_magnitude (negative : Bool) {u : List Char} (h : Magnitude u) :
    ∃ o : Option Int, ∀ rest, Ends rest → ∀ i r,
      readMagnitude negative (u ++ rest) = .ok (.integer i, r) ↔ r = rest ∧ o = some i := by
  by_cases fits : ∃ i, Whole u ∧ Text.digitsFrom 0 u < UInt64.size
      ∧ readMagnitude.whole negative (Text.digitsFrom 0 u) = .integer i
  · obtain ⟨i, whole, small, hi⟩ := fits
    refine ⟨some i, fun rest ends j r => ?_⟩
    rw [readMagnitude_magnitude_iff h ends, hi]
    simp [whole, small]
  · refine ⟨none, fun rest ends j r => ?_⟩
    rw [readMagnitude_magnitude_iff h ends]
    constructor
    · rintro ⟨-, whole⟩
      exact absurd ⟨j, whole⟩ fits
    · rintro ⟨-, ⟨⟩⟩

theorem readInteger_cons {c : Char} (blank : isSpace c = false) (expected : String)
    (low high : Int) (cs : List Char) :
    readInteger expected low high (c :: cs)
      = if c = '-' ∨ Text.isDigit c then
          readNumber (c :: cs) >>= fun r =>
            match r.1 with
            | .integer i =>
                if low ≤ i ∧ i ≤ high then .ok (i, r.2)
                else .error (.invalidValue (.integer i) expected)
            | .real x => .error (.invalidType (.real x) expected)
        else mismatch expected c cs := by
  have next := skipSpaces_cons blank cs
  unfold readInteger
  split
  next he =>
    rw [next] at he
    cases he
  next he =>
    rw [next] at he
    injection he with hc hcs
    subst hc hcs
    rfl

/-- What is read as a whole number within bounds is one of 64 bits. -/
theorem readInteger_eq_ok {c : Char} {cs rest : List Char} (blank : isSpace c = false)
    {expected : String} {low high i : Int}
    (h : readInteger expected low high (c :: cs) = .ok (i, rest)) :
    readNumber (c :: cs) = .ok (.integer i, rest) ∧ low ≤ i ∧ i ≤ high := by
  rw [readInteger_cons blank] at h
  split at h
  next =>
    replace h := bind_eq_ok_iff.mp h
    obtain ⟨⟨n, rest'⟩, number, h⟩ := h
    dsimp only at h
    split at h
    next j =>
      split at h
      next range =>
        injection h with h
        injection h with hi hr
        subst hi hr
        exact ⟨number, range⟩
      next => cases h
    next => cases h
  next => exact absurd h mismatch_ne_ok

/-- A number is read within bounds if it is a whole one and lies there. -/
theorem readInteger_number {u : List Char} {o : Option Int}
    (head : ∃ c cs, u = c :: cs ∧ (c = '-' ∨ Text.isDigit c = true))
    (whole : ∀ rest, Ends rest → ∀ i r, readNumber (u ++ rest) = .ok (.integer i, r)
      ↔ r = rest ∧ o = some i)
    (expected : String) (low high : Int) {rest : List Char} (ends : Ends rest) :
    (readInteger expected low high (u ++ rest)).toOption
      = (o.filter fun i => low ≤ i ∧ i ≤ high).map fun i => (i, rest) := by
  obtain ⟨c, cs, rfl, head⟩ := head
  have whole := whole rest ends
  have blank := numberHead_isSpace head
  rw [List.cons_append] at whole ⊢
  cases read : readInteger expected low high (c :: (cs ++ rest)) with
  | ok r =>
      obtain ⟨i, r⟩ := r
      obtain ⟨number, range⟩ := readInteger_eq_ok blank read
      obtain ⟨rfl, rfl⟩ := (whole i r).mp number
      simp [Except.toOption, Option.filter, range]
  | error e =>
      cases o with
      | none => rfl
      | some i =>
          -- it is a whole number, so its bounds are at fault
          have number := (whole i rest).mpr ⟨rfl, rfl⟩
          rw [readInteger_cons blank, if_pos head, number] at read
          by_cases range : low ≤ i ∧ i ≤ high
          · simp [bind, Except.bind, range] at read
          · simp [Except.toOption, Option.filter, range]

/-- **Whether a number is within bounds is settled by its characters.** -/
theorem readInteger_settled (expected : String) (low high : Int) (t : Tree) :
    ∃ o : Option Int, ∀ u rest, Writes t u → Ends rest →
      (readInteger expected low high (u ++ rest)).toOption = o.map fun i => (i, rest) := by
  -- nothing but a number is read
  have refused : ∀ {c : Char} (cs : List Char), isSpace c = false →
      ¬(c = '-' ∨ Text.isDigit c = true) →
      (readInteger expected low high (c :: cs)).toOption = none := by
    intro c cs blank other
    rw [readInteger_cons blank, if_neg other]
    exact mismatch_toOption _ _ _
  cases t with
  | word w =>
      obtain ⟨chars, word⟩ := w
      cases word with
      | null =>
          refine ⟨none, fun u rest h _ => ?_⟩
          cases h
          exact refused _ (by decide) (by decide)
      | yes =>
          refine ⟨none, fun u rest h _ => ?_⟩
          cases h
          exact refused _ (by decide) (by decide)
      | no =>
          refine ⟨none, fun u rest h _ => ?_⟩
          cases h
          exact refused _ (by decide) (by decide)
      | number magnitude =>
          obtain ⟨o, whole⟩ := exists_integer_of_magnitude false magnitude
          simp only [← readNumber_magnitude magnitude] at whole
          obtain ⟨c, cs, he, digit⟩ := magnitude.head
          refine ⟨o.filter fun i => low ≤ i ∧ i ≤ high, fun u rest h ends => ?_⟩
          cases h
          exact readInteger_number ⟨c, cs, he, .inr digit⟩ whole expected low high ends
      | signed magnitude =>
          obtain ⟨o, whole⟩ := exists_integer_of_magnitude true magnitude
          refine ⟨o.filter fun i => low ≤ i ∧ i ≤ high, fun u rest h ends => ?_⟩
          cases h
          exact readInteger_number ⟨'-', _, rfl, .inl rfl⟩ whole expected low high ends
  | text s =>
      refine ⟨none, fun u rest h _ => ?_⟩
      cases h
      exact refused _ (by decide) (by decide)
  | sequence ts =>
      refine ⟨none, fun u rest h _ => ?_⟩
      cases h
      exact refused _ (by decide) (by decide)
  | record ms =>
      refine ⟨none, fun u rest h _ => ?_⟩
      cases h
      exact refused _ (by decide) (by decide)

theorem exists_writes_of_readInteger {expected : String} {low high i : Int} {cs rest : List Char}
    (h : readInteger expected low high cs = .ok (i, rest)) :
    ∃ ws t u, Spaces ws ∧ Writes t u ∧ cs = ws ++ (u ++ rest) := by
  obtain ⟨ws, blank, split⟩ := exists_spaces cs
  rw [split, readInteger_append blank] at h
  cases next : skipSpaces cs with
  | nil =>
      rw [next] at h
      cases h
  | cons c cs' =>
      rw [next] at h split
      have number := (readInteger_eq_ok (skipSpaces_head next) h).1
      rw [readNumber_cons] at number
      rw [split]
      split at number
      next hc =>
        obtain ⟨ds, whole, rfl, -⟩ := exists_whole_of_readMagnitude number
        have magnitude : Magnitude (ds ++ ([] ++ [])) := .mk whole .none .none
        exact ⟨ws, .word ⟨_, .signed magnitude⟩, _, blank, .word _, by simp [hc]⟩
      next =>
        obtain ⟨ds, whole, hds, -⟩ := exists_whole_of_readMagnitude number
        have magnitude : Magnitude (ds ++ ([] ++ [])) := .mk whole .none .none
        exact ⟨ws, .word ⟨_, .number magnitude⟩, _, blank, .word _, by simp [hds]⟩

/-- A codec of whole numbers is uniform. -/
theorem integer_uniform {codec : Codec α} (expected : String) (low high : Int) (ofInt : Int → α)
    (read : ∀ cs,
      codec.read cs = (readInteger expected low high cs).map fun r => (ofInt r.1, r.2)) :
    codec.Uniform where
  blanks := by
    intro ws cs h
    rw [read, read, readInteger_append h]
  settled := by
    intro t
    obtain ⟨o, settled⟩ := readInteger_settled expected low high t
    refine ⟨o.map ofInt, fun u rest h ends => ?_⟩
    rw [read, toOption_map, settled u rest h ends]
    cases o <;> rfl
  parses := by
    intro cs a rest h
    rw [read] at h
    obtain ⟨⟨i, rest'⟩, number, he⟩ := map_eq_ok_iff.mp h
    injection he with _ he
    subst he
    exact exists_writes_of_readInteger number

theorem int64_uniform : int64.Uniform := integer_uniform "i64" _ _ Int64.ofInt fun _ => rfl

theorem uint32_uniform : uint32.Uniform :=
  integer_uniform "u32" 0 (UInt32.size - 1) (fun i => UInt32.ofNat i.toNat) fun _ => rfl

theorem uint16_uniform : uint16.Uniform :=
  integer_uniform "u16" 0 (UInt16.size - 1) (fun i => UInt16.ofNat i.toNat) fun _ => rfl

end Codec

end TunnelControl.Json
