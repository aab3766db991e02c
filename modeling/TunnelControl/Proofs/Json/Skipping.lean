/-
  TunnelControl.Proofs.Json.Skipping
  ──────────────────────────────────
  **WHAT NOBODY ASKS FOR IS SKIPPED, AT ANY DEPTH.**

  A value that no field takes is skipped without being read.  Skipping takes
  exactly the text of one tree, whatever its depth, the size of its numbers
  and the escapes of its strings; and it takes nothing else.

    • `Skips`, `skips_succ`, `skips` — trees are skipped, by induction on the
                                       bound of the steps,
    • `skipValue_writes`             — one value,
    • `Skipped`, `skipped_succ`, `skipped`, `exists_writes_of_skipValue` —
                                       what was skipped is a tree.
-/
import TunnelControl.Proofs.Json.Numbers

namespace TunnelControl.Json

/-! ## §1. Trees are skipped. -/

/-- What a bound on the steps suffices for. -/
structure Skips (n : Nat) : Prop where
  /-- One value. -/
  value : ∀ {t u ws rest}, Writes t u → Spaces ws → Ends rest → u.length ≤ n →
    skipWithin n (ws ++ (u ++ rest)) = .ok rest
  /-- An element, and all that follow up to the end of the array. -/
  items : ∀ {t u ts us ws rest}, Writes t u → WritesItems false ts us → Spaces ws →
    u.length + us.length ≤ n → skipItems n (ws ++ (u ++ (us ++ rest))) = .ok rest
  /-- A member, and all that follow up to the end of the object. -/
  members : ∀ {k : Quoted} {t u ms us ws left right rest}, Writes t u → WritesMembers false ms us →
    Spaces ws → Spaces left → Spaces right → k.chars.length + (u.length + us.length) ≤ n →
    skipMembers n (ws ++ (k.chars ++ (left ++ ':' :: (right ++ (u ++ (us ++ rest)))))) = .ok rest

/-- A word is skipped. -/
theorem skipWithin_word (w : Token) {rest : List Char} (ends : Ends rest) (n : Nat) :
    skipWithin (n + 1) (w.chars ++ rest) = .ok rest := by
  obtain ⟨chars, word⟩ := w
  rw [skipWithin]
  cases word with
  | null => exact readWord_append ['u', 'l', 'l'] rest
  | yes => exact readWord_append ['r', 'u', 'e'] rest
  | no => exact readWord_append ['a', 'l', 's', 'e'] rest
  | number magnitude =>
      have skipped := skipMagnitude_append magnitude ends
      obtain ⟨c, cs, rfl, digit⟩ := magnitude.head
      have head : c = '-' ∨ Text.isDigit c = true := .inr digit
      have minus : c ≠ '-' := by
        rintro rfl
        cases digit
      rw [List.cons_append] at skipped ⊢
      rw [skipSpaces_cons (numberHead_isSpace head)]
      dsimp only
      rw [if_neg (numberHead_ne head (by decide)), if_neg (numberHead_ne head (by decide)),
        if_neg (numberHead_ne head (by decide)), if_neg minus, if_pos digit, skipped]
  | signed magnitude =>
      rw [List.cons_append, skipSpaces_cons (by decide)]
      exact skipMagnitude_append magnitude ends

/-- A string is skipped. -/
theorem skipWithin_text (s : Quoted) (rest : List Char) (n : Nat) :
    skipWithin (n + 1) (s.chars ++ rest) = .ok rest := by
  rw [s.chars_append, skipWithin, skipSpaces_cons (by decide)]
  exact skipText_quoted s rest _ (by rw [List.length_append]; omega)

/-- An array ends at once, or begins with an element. -/
theorem skipWithin_bracket {c : Char} {cs rest : List Char} (next : skipSpaces cs = c :: rest)
    (n : Nat) :
    skipWithin (n + 1) ('[' :: cs) = if c = ']' then .ok rest else skipItems n (c :: rest) := by
  rw [skipWithin, skipSpaces_cons (by decide)]
  dsimp only
  rw [if_neg (by decide), if_neg (by decide), if_neg (by decide), if_neg (by decide),
    if_neg (by decide), if_neg (by decide), if_pos rfl, next]
  split
  next h => cases h
  next h =>
    obtain ⟨rfl, rfl⟩ := List.cons.inj h
    rw [if_pos rfl]
  next other =>
    rw [if_neg]
    rintro rfl
    exact other rest rfl

/-- Behind an element the array ends, or goes on behind a comma. -/
theorem skipItems_element {n : Nat} {c : Char} {cs more rest : List Char}
    (element : skipWithin n cs = .ok more) (next : skipSpaces more = c :: rest) :
    skipItems (n + 1) cs
      = if c = ']' then .ok rest
        else if c = ',' then skipItems n rest
        else .error .malformed := by
  rw [skipItems, element]
  simp only [bind, Except.bind]
  rw [next]
  split <;> simp_all

/-- An object ends at once, or begins with a member. -/
theorem skipWithin_brace {c : Char} {cs rest : List Char} (next : skipSpaces cs = c :: rest)
    (n : Nat) :
    skipWithin (n + 1) (Char.ofNat 0x7B :: cs)
      = if c = Char.ofNat 0x7D then .ok rest else skipMembers n (c :: rest) := by
  rw [skipWithin, skipSpaces_cons (by decide)]
  dsimp only
  rw [if_neg (by decide), if_neg (by decide), if_neg (by decide), if_neg (by decide),
    if_neg (by decide), if_neg (by decide), if_neg (by decide), if_pos rfl, next]

theorem skipMembers_blank {ws : List Char} (blank : Spaces ws) (n : Nat) (cs : List Char) :
    skipMembers (n + 1) (ws ++ cs) = skipMembers (n + 1) cs := by
  rw [skipMembers, skipMembers, skipSpaces_append blank]

/-- Behind a member the object ends, or goes on behind a comma. -/
theorem skipMembers_member {n : Nat} {c : Char} {cs inside value more rest : List Char}
    (name : skipText (cs.length + 1) cs = .ok inside) (colon : readColon inside = .ok value)
    (skipped : skipWithin n value = .ok more) (next : skipSpaces more = c :: rest) :
    skipMembers (n + 1) ('"' :: cs)
      = if c = Char.ofNat 0x7D then .ok rest
        else if c = ',' then skipMembers n rest
        else .error .malformed := by
  rw [skipMembers, skipSpaces_cons (by decide)]
  simp only [bind, Except.bind, name, colon, skipped]
  rw [next]

theorem skipWithin_blank {ws : List Char} (blank : Spaces ws) (n : Nat) (cs : List Char) :
    skipWithin (n + 1) (ws ++ cs) = skipWithin (n + 1) cs := by
  rw [skipWithin, skipWithin, skipSpaces_append blank]

/-- An array takes one step more than its elements. -/
theorem Skips.sequence {n : Nat} (h : Skips n) {ts : List Tree} {cs : List Char}
    (items : WritesItems true ts cs) (enough : cs.length ≤ n) (rest : List Char) :
    skipWithin (n + 1) ('[' :: (cs ++ rest)) = .ok rest := by
  cases items with
  | close blank =>
      rw [List.append_assoc, List.singleton_append,
        skipWithin_bracket (skipSpaces_append_cons blank (by decide) _)]
      exact if_pos rfl
  | @item _ t ts lead u us before element more =>
      cases before with
      | first blank =>
          simp only [List.length_append] at enough
          have skipped := @Skips.items n h t u ts us [] rest element more spaces_nil (by omega)
          obtain ⟨c, u', rfl, head⟩ := element.head
          rw [List.nil_append, List.cons_append] at skipped
          rw [List.append_assoc, List.append_assoc, List.cons_append,
            skipWithin_bracket (skipSpaces_append_cons blank head.ne.1 _), if_neg head.ne.2.1]
          exact skipped

/-- An object takes one step more than its members. -/
theorem Skips.record {n : Nat} (h : Skips n) {ms : List (Quoted × Tree)} {cs : List Char}
    (members : WritesMembers true ms cs) (enough : cs.length ≤ n) (rest : List Char) :
    skipWithin (n + 1) (Char.ofNat 0x7B :: (cs ++ rest)) = .ok rest := by
  cases members with
  | close blank =>
      rw [List.append_assoc, List.singleton_append,
        skipWithin_brace (skipSpaces_append_cons blank (by decide) _)]
      exact if_pos rfl
  | @member _ k t ms lead left right u us before hleft hright value more =>
      cases before with
      | first blank =>
          simp only [List.length_append, List.length_cons] at enough
          have skipped := @Skips.members n h k t u ms us [] left right rest value more spaces_nil
            hleft hright (by omega)
          simp only [Quoted.chars, List.append_assoc, List.cons_append, List.nil_append]
            at skipped ⊢
          rw [skipWithin_brace (skipSpaces_append_cons blank (by decide) _), if_neg (by decide)]
          exact skipped

/-- An element takes a step, and so does each that follows. -/
theorem Skips.items_succ {n : Nat} (h : Skips n) {t : Tree} {u us ws rest : List Char}
    {ts : List Tree} (element : Writes t u) (more : WritesItems false ts us) (blank : Spaces ws)
    (enough : u.length + us.length ≤ n + 1) :
    skipItems (n + 1) (ws ++ (u ++ (us ++ rest))) = .ok rest := by
  have shorter : u.length ≤ n := by
    have := more.length_lt
    omega
  have skipped := h.value element blank (more.ends rest) shorter
  cases more with
  | close blank' =>
      rw [List.append_assoc, List.singleton_append] at skipped ⊢
      rw [skipItems_element skipped (skipSpaces_append_cons blank' (by decide) _)]
      exact if_pos rfl
  | item before element' more' =>
      cases before with
      | next blank' after =>
          simp only [List.length_append, List.length_cons] at enough
          obtain ⟨c, u', rfl, -⟩ := element.head
          rw [List.length_cons] at enough
          simp only [List.append_assoc, List.cons_append] at skipped ⊢
          rw [skipItems_element skipped (skipSpaces_append_cons blank' (by decide) _),
            if_neg (by decide), if_pos rfl]
          exact h.items element' more' after (by omega)

/-- A member takes a step, and so does each that follows. -/
theorem Skips.members_succ {n : Nat} (h : Skips n) {k : Quoted} {t : Tree}
    {u us ws left right rest : List Char} {ms : List (Quoted × Tree)} (value : Writes t u)
    (more : WritesMembers false ms us) (blank : Spaces ws) (hleft : Spaces left)
    (hright : Spaces right) (enough : k.chars.length + (u.length + us.length) ≤ n + 1) :
    skipMembers (n + 1) (ws ++ (k.chars ++ (left ++ ':' :: (right ++ (u ++ (us ++ rest))))))
      = .ok rest := by
  have quotes : k.chars.length = k.inside.length + 2 := by simp [Quoted.chars]
  have name : ∀ tail, skipText ((k.inside ++ '"' :: tail).length + 1) (k.inside ++ '"' :: tail)
      = .ok tail := fun tail => skipText_quoted k _ _ (by rw [List.length_append]; omega)
  have skipped := h.value value hright (more.ends rest) (by omega)
  rw [skipMembers_blank blank, k.chars_append]
  cases more with
  | close blank' =>
      rw [List.append_assoc, List.singleton_append] at skipped ⊢
      rw [skipMembers_member (name _) (readColon_append hleft _) skipped
        (skipSpaces_append_cons blank' (by decide) _)]
      exact if_pos rfl
  | member before left' right' value' more' =>
      cases before with
      | next blank' after =>
          simp only [List.length_append, List.length_cons] at enough
          simp only [List.append_assoc, List.cons_append] at skipped ⊢
          rw [skipMembers_member (name _) (readColon_append hleft _) skipped
            (skipSpaces_append_cons blank' (by decide) _), if_neg (by decide), if_pos rfl]
          exact h.members value' more' after left' right' (by omega)

/-- **One step more suffices for one level more.** -/
theorem skips_succ {n : Nat} (ih : Skips n) : Skips (n + 1) where
  value := by
    intro t u ws rest h blank ends enough
    rw [skipWithin_blank blank]
    cases h with
    | word w => exact skipWithin_word w ends n
    | text s => exact skipWithin_text s rest n
    | sequence items => exact ih.sequence items (Nat.le_of_succ_le_succ enough) rest
    | record members => exact ih.record members (Nat.le_of_succ_le_succ enough) rest
  items := fun element more blank enough => ih.items_succ element more blank enough
  members := fun value more blank hleft hright enough =>
    ih.members_succ value more blank hleft hright enough

/-- **Every tree is skipped** if the bound is no smaller than its text. -/
theorem skips (n : Nat) : Skips n := by
  induction n with
  | zero =>
      refine ⟨?_, ?_, ?_⟩
      · intro t u ws rest h _ _ enough
        obtain ⟨c, cs, rfl, -⟩ := h.head
        cases enough
      · intro t u ts us ws rest h _ _ enough
        obtain ⟨c, cs, rfl, -⟩ := h.head
        rw [List.length_cons] at enough
        omega
      · intro k t u ms us ws left right rest h _ _ _ _ enough
        obtain ⟨c, cs, rfl, -⟩ := h.head
        rw [List.length_cons] at enough
        omega
  | succ n ih => exact skips_succ ih

/-- **A value of any depth is skipped**, with blanks before it. -/
theorem skipValue_writes {t : Tree} {u ws rest : List Char} (h : Writes t u) (blank : Spaces ws)
    (ends : Ends rest) : skipValue (ws ++ (u ++ rest)) = .ok rest := by
  unfold skipValue
  exact (skips _).value h blank ends (by simp only [List.length_append]; omega)

/-! ## §2. What was skipped is a tree. -/

/-- Blanks are skipped, and nothing else. -/
theorem exists_spaces (cs : List Char) : ∃ ws, Spaces ws ∧ cs = ws ++ skipSpaces cs := by
  refine ⟨cs.takeWhile isSpace, ?_, (List.takeWhile_append_dropWhile).symm⟩
  intro c hc
  exact List.all_eq_true.mp (List.all_takeWhile (l := cs)) c hc

/-- The blanks before the character that comes next. -/
theorem exists_spaces_of_cons {c : Char} {cs rest : List Char} (h : skipSpaces cs = c :: rest) :
    ∃ ws, Spaces ws ∧ cs = ws ++ c :: rest := by
  obtain ⟨ws, blank, split⟩ := exists_spaces cs
  exact ⟨ws, blank, h ▸ split⟩

/-- No blank comes next. -/
theorem skipSpaces_head {c : Char} {cs rest : List Char} (h : skipSpaces cs = c :: rest) :
    isSpace c = false := by
  have head := List.head?_dropWhile_not isSpace cs
  rw [← skipSpaces, h] at head
  simpa using head

theorem eq_append_of_readWord {ws cs rest : List Char} (h : readWord ws cs = .ok rest) :
    cs = ws ++ rest := by
  induction ws generalizing cs with
  | nil =>
      injection h with h
  | cons w ws ih =>
      cases cs with
      | nil => cases h
      | cons c cs =>
          rw [readWord] at h
          split at h
          next hc => rw [hc, ih h, List.cons_append]
          next => cases h

/-- A colon was read, with blanks before it. -/
theorem exists_spaces_of_readColon {cs rest : List Char} (h : readColon cs = .ok rest) :
    ∃ ws, Spaces ws ∧ cs = ws ++ ':' :: rest := by
  unfold readColon at h
  split at h
  next => cases h
  next more next =>
    injection h with h
    subst h
    exact exists_spaces_of_cons next
  next => cases h

/-- What was skipped within a bound on the steps. -/
structure Skipped (n : Nat) : Prop where
  /-- One value. -/
  value : ∀ {cs rest}, skipWithin n cs = .ok rest →
    ∃ ws t u, Spaces ws ∧ Writes t u ∧ cs = ws ++ (u ++ rest)
  /-- An element, and all that follow up to the end of the array. -/
  items : ∀ {cs rest}, skipItems n cs = .ok rest →
    ∃ ws t u ts us, Spaces ws ∧ Writes t u ∧ WritesItems false ts us
      ∧ cs = ws ++ (u ++ (us ++ rest))
  /-- A member, and all that follow up to the end of the object. -/
  members : ∀ {cs rest}, skipMembers n cs = .ok rest →
    ∃ (ws left right : List Char) (k : Quoted) (t : Tree) (u us : List Char)
      (ms : List (Quoted × Tree)), Spaces ws ∧ Spaces left ∧ Spaces right ∧ Writes t u
      ∧ WritesMembers false ms us
      ∧ cs = ws ++ (k.chars ++ (left ++ ':' :: (right ++ (u ++ (us ++ rest)))))

/-- What was skipped and is neither an array nor an object is a word or a
string. -/
theorem exists_writes_of_flat {n : Nat} {c : Char} {cs rest : List Char}
    (blank : isSpace c = false) (bracket : c ≠ '[') (brace : c ≠ Char.ofNat 0x7B)
    (h : skipWithin (n + 1) (c :: cs) = .ok rest) : ∃ t u, Writes t u ∧ c :: cs = u ++ rest := by
  rw [skipWithin, skipSpaces_cons blank] at h
  dsimp only at h
  rw [if_neg bracket, if_neg brace] at h
  split at h
  next hc =>
    rw [hc, eq_append_of_readWord h]
    exact ⟨.word ⟨_, .null⟩, _, .word _, rfl⟩
  next =>
  split at h
  next hc =>
    rw [hc, eq_append_of_readWord h]
    exact ⟨.word ⟨_, .yes⟩, _, .word _, rfl⟩
  next =>
  split at h
  next hc =>
    rw [hc, eq_append_of_readWord h]
    exact ⟨.word ⟨_, .no⟩, _, .word _, rfl⟩
  next =>
  split at h
  next hc =>
    obtain ⟨u, magnitude, rfl⟩ := exists_magnitude_of_skipMagnitude h
    rw [hc]
    exact ⟨.word ⟨_, .signed magnitude⟩, _, .word _, rfl⟩
  next =>
  split at h
  next =>
    obtain ⟨u, magnitude, split⟩ := exists_magnitude_of_skipMagnitude h
    exact ⟨.word ⟨_, .number magnitude⟩, _, .word _, split⟩
  next =>
  split at h
  next hc =>
    obtain ⟨s, rfl⟩ := exists_quoted_of_skipText h
    rw [hc]
    exact ⟨.text s, _, .text s, by rw [s.chars_append]⟩
  next => cases h

/-- What was skipped behind a bracket is an array. -/
theorem Skipped.sequence {n : Nat} (ih : Skipped n) {cs rest : List Char}
    (h : skipWithin (n + 1) ('[' :: cs) = .ok rest) :
    ∃ t u, Writes t u ∧ '[' :: cs = u ++ rest := by
  cases next : skipSpaces cs with
  | nil =>
      rw [skipWithin, skipSpaces_cons (by decide)] at h
      dsimp only at h
      rw [next] at h
      cases h
  | cons c more =>
      rw [skipWithin_bracket next] at h
      obtain ⟨ws, blank, rfl⟩ := exists_spaces_of_cons next
      split at h
      next hc =>
        injection h with h
        subst h hc
        exact ⟨.sequence [], _, .sequence (.close blank), by simp⟩
      next =>
        obtain ⟨ws', t, u, ts, us, blank', element, others, split⟩ := ih.items h
        have lead : Spaces (ws ++ ws') := List.forall_mem_append.mpr ⟨blank, blank'⟩
        refine ⟨_, _, .sequence (.item (.first lead) element others), ?_⟩
        rw [split]
        simp

/-- What was skipped behind a brace is an object. -/
theorem Skipped.record {n : Nat} (ih : Skipped n) {cs rest : List Char}
    (h : skipWithin (n + 1) (Char.ofNat 0x7B :: cs) = .ok rest) :
    ∃ t u, Writes t u ∧ Char.ofNat 0x7B :: cs = u ++ rest := by
  cases next : skipSpaces cs with
  | nil =>
      rw [skipWithin, skipSpaces_cons (by decide)] at h
      dsimp only at h
      rw [next] at h
      cases h
  | cons c more =>
      rw [skipWithin_brace next] at h
      obtain ⟨ws, blank, rfl⟩ := exists_spaces_of_cons next
      split at h
      next hc =>
        injection h with h
        subst h hc
        exact ⟨.record [], _, .record (.close blank), by simp⟩
      next =>
        obtain ⟨ws', left, right, k, t, u, us, ms, blank', hleft, hright, value, others, split⟩ :=
          ih.members h
        have lead : Spaces (ws ++ ws') := List.forall_mem_append.mpr ⟨blank, blank'⟩
        refine ⟨_, _, .record (.member (k := k) (.first lead) hleft hright value others), ?_⟩
        rw [split]
        simp

/-- **One step more skips one level more.** -/
theorem skipped_succ {n : Nat} (ih : Skipped n) : Skipped (n + 1) where
  value := by
    intro cs rest h
    cases next : skipSpaces cs with
    | nil =>
        rw [skipWithin, next] at h
        cases h
    | cons c more =>
        have head := skipSpaces_head next
        obtain ⟨ws, blank, rfl⟩ := exists_spaces_of_cons next
        rw [skipWithin_blank blank] at h
        obtain ⟨t, u, text, split⟩ : ∃ t u, Writes t u ∧ c :: more = u ++ rest := by
          by_cases bracket : c = '['
          · subst bracket
            exact ih.sequence h
          by_cases brace : c = Char.ofNat 0x7B
          · subst brace
            exact ih.record h
          · exact exists_writes_of_flat head bracket brace h
        exact ⟨ws, t, u, blank, text, by rw [split]⟩
  items := by
    intro cs rest h
    rw [skipItems] at h
    replace h := bind_eq_ok_iff.mp h
    obtain ⟨cs', value, h⟩ := h
    obtain ⟨ws, t, u, blank, element, rfl⟩ := ih.value value
    split at h
    next => cases h
    next more next =>
      injection h with h
      subst h
      obtain ⟨ws', blank', rfl⟩ := exists_spaces_of_cons next
      exact ⟨ws, t, u, [], _, blank, element, .close blank', by simp⟩
    next more next =>
      obtain ⟨ws', blank', rfl⟩ := exists_spaces_of_cons next
      obtain ⟨ws'', t', u', ts, us, blank'', element', more', rfl⟩ := ih.items h
      exact ⟨ws, t, u, _, _, blank, element, .item (.next blank' blank'') element' more', by simp⟩
    next => cases h
  members := by
    intro cs rest h
    rw [skipMembers] at h
    split at h
    next => cases h
    next cs' next =>
      obtain ⟨ws, blank, rfl⟩ := exists_spaces_of_cons next
      replace h := bind_eq_ok_iff.mp h
      obtain ⟨cs'', text, h⟩ := h
      obtain ⟨k, rfl⟩ := exists_quoted_of_skipText text
      replace h := bind_eq_ok_iff.mp h
      obtain ⟨cs', colon, h⟩ := h
      obtain ⟨left, hleft, rfl⟩ := exists_spaces_of_readColon colon
      replace h := bind_eq_ok_iff.mp h
      obtain ⟨cs'', skipped, h⟩ := h
      obtain ⟨right, t, u, hright, value, rfl⟩ := ih.value skipped
      split at h
      next => cases h
      next c more next =>
        obtain ⟨ws', blank', rfl⟩ := exists_spaces_of_cons next
        split at h
        next hc =>
          injection h with h
          subst h hc
          exact ⟨ws, left, right, k, t, u, _, [], blank, hleft, hright, value, .close blank',
            by simp [Quoted.chars_append]⟩
        next =>
          split at h
          next hc =>
            subst hc
            obtain ⟨ws'', left', right', k', t', u', us, ms, blank'', hleft', hright', value',
              more', rfl⟩ := ih.members h
            exact ⟨ws, left, right, k, t, u, _, _, blank, hleft, hright, value,
              .member (k := k') (.next blank' blank'') hleft' hright' value' more',
              by simp [Quoted.chars_append]⟩
          next => cases h
    next => cases h

theorem skipped (n : Nat) : Skipped n := by
  induction n with
  | zero =>
      refine ⟨?_, ?_, ?_⟩
      · intro cs rest h
        cases h
      · intro cs rest h
        cases h
      · intro cs rest h
        cases h
  | succ n ih => exact skipped_succ ih

/-- **What was skipped as a value is the text of a tree.** -/
theorem exists_writes_of_skipValue {cs rest : List Char} (h : skipValue cs = .ok rest) :
    ∃ ws t u, Spaces ws ∧ Writes t u ∧ cs = ws ++ (u ++ rest) :=
  (skipped _).value h

end TunnelControl.Json
