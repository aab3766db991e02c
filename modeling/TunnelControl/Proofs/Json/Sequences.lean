/-
  TunnelControl.Proofs.Json.Sequences
  ───────────────────────────────────
  **AN ARRAY MEANS WHAT ITS ELEMENTS MEAN.**

  Lists of a uniform codec are uniform: an array has a meaning if each of its
  elements has one, and it is the list of these.  An option adds `null`.  For
  whole texts this comes to: a text is decoded exactly if its tree has a
  meaning.

    • `nextElement_eq_ok`, `closeSequence_eq_ok` — the marks of an array,
    • `readItems_writes`, `list_uniform`, `meaning_list` — arrays,
    • `optional_uniform`                         — options,
    • `Uniform.decode_eq_ok_iff`, `Uniform.exists_tree` — whole texts.
-/
import TunnelControl.Proofs.Json.Uniform

namespace TunnelControl.Json

/-- Blanks may stand before an element or a member. -/
theorem Lead.append {first : Bool} {lead ws : List Char} (h : Lead first lead) (blank : Spaces ws) :
    Lead first (lead ++ ws) := by
  cases h with
  | first before => exact .first (List.forall_mem_append.mpr ⟨before, blank⟩)
  | next before after =>
      rw [List.append_assoc, List.cons_append]
      exact .next before (List.forall_mem_append.mpr ⟨after, blank⟩)

theorem Lead.prepend {first : Bool} {lead ws : List Char} (h : Lead first lead)
    (blank : Spaces ws) : Lead first (ws ++ lead) := by
  cases h with
  | first before => exact .first (List.forall_mem_append.mpr ⟨blank, before⟩)
  | next before after =>
      rw [← List.append_assoc]
      exact .next (List.forall_mem_append.mpr ⟨blank, before⟩) after

theorem WritesItems.prepend {first : Bool} {ts : List Tree} {us ws : List Char}
    (h : WritesItems first ts us) (blank : Spaces ws) : WritesItems first ts (ws ++ us) := by
  cases h with
  | close blank' =>
      rw [← List.append_assoc]
      exact .close (List.forall_mem_append.mpr ⟨blank, blank'⟩)
  | item before element more =>
      rw [← List.append_assoc]
      exact .item (before.prepend blank) element more

namespace Codec

variable {α : Type}

/-! ## §1. The marks of an array. -/

/-- The next element begins behind blanks and a comma; otherwise the array
ends. -/
theorem nextElement_eq_ok {first more : Bool} {cs rest : List Char}
    (h : nextElement first cs = .ok (more, rest)) :
    (more = true ∧ ∃ lead, Lead first lead ∧ cs = lead ++ rest)
      ∨ (more = false ∧ ∃ ws rest', Spaces ws ∧ rest = ']' :: rest' ∧ cs = ws ++ ']' :: rest') := by
  unfold nextElement at h
  split at h
  next => cases h
  next c cs' next =>
    obtain ⟨ws, blank, rfl⟩ := exists_spaces_of_cons next
    split at h
    next hc =>
      injection h with h
      injection h with hm hr
      subst hm hr hc
      exact .inr ⟨rfl, ws, cs', blank, rfl, rfl⟩
    next =>
      split at h
      next hf =>
        injection h with h
        injection h with hm hr
        subst hm hr hf
        exact .inl ⟨rfl, ws, .first blank, rfl⟩
      next hf =>
        rw [Bool.not_eq_true] at hf
        split at h
        next hc =>
          split at h
          next => cases h
          next d cs'' next' =>
            split at h
            next => cases h
            next =>
              obtain ⟨ws', blank', rfl⟩ := exists_spaces_of_cons next'
              injection h with h
              injection h with hm hr
              subst hm hr hc hf
              exact .inl ⟨rfl, _, .next blank blank', by simp⟩
        next => cases h

theorem closeSequence_blanks {ws : List Char} (h : Spaces ws) (cs : List Char) :
    closeSequence (ws ++ cs) = closeSequence cs := by
  unfold closeSequence
  rw [skipSpaces_append h]

/-- A further element is not the end of an array. -/
theorem closeSequence_item {first : Bool} {lead : List Char} (h : Lead first lead) {t : Tree}
    {c : Char} (head : Head t c) (cs : List Char) :
    (closeSequence (lead ++ c :: cs)).toOption = none := by
  cases h with
  | first blank =>
      rw [closeSequence_blanks blank, closeSequence, skipSpaces_cons head.ne.1]
      dsimp only
      rw [if_neg head.ne.2.1]
      rfl
  | next blank =>
      rw [List.append_assoc, List.cons_append, closeSequence_blanks blank, closeSequence,
        skipSpaces_cons (by decide)]
      rfl

theorem closeSequence_eq_ok {cs rest : List Char} (h : closeSequence cs = .ok rest) :
    ∃ ws, Spaces ws ∧ cs = ws ++ ']' :: rest := by
  unfold closeSequence at h
  split at h
  next => cases h
  next c cs' next =>
    obtain ⟨ws, blank, rfl⟩ := exists_spaces_of_cons next
    split at h
    next hc =>
      injection h with h
      subst h hc
      exact ⟨ws, blank, rfl⟩
    next => cases h

/-! ## §2. Arrays. -/

/-- **The elements of an array are read one by one**, up to its end. -/
theorem readItems_writes {item : Codec α} (h : item.Uniform) {ts : List Tree} (rest : List Char)
    {first : Bool} {cs : List Char} (text : WritesItems first ts cs) (fuel : Nat)
    (enough : ts.length < fuel) :
    (readItems item.read fuel first (cs ++ rest)).toOption
      = (ts.mapM item.meaning).map fun as => (as, ']' :: rest) := by
  induction ts generalizing first cs fuel with
  | nil =>
      obtain ⟨n, rfl⟩ := Nat.exists_eq_add_one.mpr (Nat.zero_lt_of_lt enough)
      cases text with
      | close blank =>
          rw [readItems, List.append_assoc, List.singleton_append, nextElement_close first blank]
          rfl
  | cons t ts ih =>
      obtain ⟨n, rfl⟩ := Nat.exists_eq_add_one.mpr (Nat.zero_lt_of_lt enough)
      rw [List.length_cons] at enough
      cases text with
      | @item _ _ _ lead cs rest' before element more =>
          -- what follows an element begins with a blank, a comma or the bracket
          have hread := h.reads element (more.ends rest)
          have hmore := ih more n (by omega)
          obtain ⟨c, cs', rfl, head⟩ := element.head
          have hnext := nextElement_item before head.ne.1 head.ne.2.1 (cs' ++ (rest' ++ rest))
          simp only [List.append_assoc, List.cons_append] at hread ⊢
          rw [readItems, hnext]
          show (item.read (c :: (cs' ++ (rest' ++ rest))) >>= fun r =>
            readItems item.read n false r.2 >>= fun s => pure (r.1 :: s.1, s.2)).toOption = _
          rw [toOption_bind, hread, List.mapM_cons]
          cases item.meaning t with
          | none => rfl
          | some a =>
              show (readItems item.read n false (rest' ++ rest) >>= fun s =>
                pure (a :: s.1, s.2)).toOption = _
              rw [toOption_bind, hmore]
              cases ts.mapM item.meaning with
              | none => rfl
              | some as => rfl

/-- What was read as elements are the texts of trees. -/
theorem exists_writes_of_readItems {item : Codec α} (h : item.Uniform) {fuel : Nat} {first : Bool}
    {cs rest : List Char} {as : List α}
    (read : readItems item.read fuel first cs = .ok (as, rest)) :
    ∃ ts us rest', WritesItems first ts us ∧ rest = ']' :: rest' ∧ cs = us ++ rest' := by
  induction fuel generalizing first cs as with
  | zero => cases read
  | succ n ih =>
      rw [readItems] at read
      replace read := bind_eq_ok_iff.mp read
      obtain ⟨⟨more, cs'⟩, next, read⟩ := read
      rcases nextElement_eq_ok next with
        ⟨rfl, lead, before, rfl⟩ | ⟨rfl, ws, rest', blank, rfl, rfl⟩
      · replace read := bind_eq_ok_iff.mp read
        obtain ⟨⟨a, cs''⟩, element, read⟩ := read
        replace read := bind_eq_ok_iff.mp read
        obtain ⟨⟨as', rest''⟩, others, read⟩ := read
        injection read with read
        injection read with _ hr
        subst hr
        obtain ⟨ws, t, u, blank, text, rfl⟩ := h.parses _ _ _ element
        obtain ⟨ts, us, rest', texts, rfl, rfl⟩ := ih others
        exact ⟨t :: ts, _, rest', .item (before.append blank) text texts, rfl, by simp⟩
      · injection read with read
        injection read with _ hr
        subst hr
        exact ⟨[], _, rest', .close blank, rfl, by simp⟩

theorem list_read_cons (item : Codec α) {c : Char} (blank : isSpace c = false) (cs : List Char) :
    item.list.read (c :: cs)
      = if c = '[' then
          readItems item.read (cs.length + 1) true cs >>= fun r =>
            closeSequence r.2 >>= fun cs => pure (r.1, cs)
        else mismatch "a sequence" c cs := by
  unfold list
  dsimp only
  rw [skipSpaces_cons blank]

/-- Only an array begins with a bracket. -/
theorem list_refused (item : Codec α) {t : Tree} (other : ∀ ts, t ≠ .sequence ts) (c : Char)
    (cs : List Char) (head : Head t c) : (item.list.read (c :: cs)).toOption = none := by
  rw [list_read_cons item head.ne.1, if_neg (head.ne_bracket other)]
  exact mismatch_toOption _ _ _

/-- An array is read as the list of what its elements mean. -/
theorem list_reads {item : Codec α} (h : item.Uniform) {ts : List Tree} {u : List Char}
    (rest : List Char) (text : Writes (.sequence ts) u) :
    (item.list.read (u ++ rest)).toOption = (ts.mapM item.meaning).map fun as => (as, rest) := by
  cases text with
  | @sequence _ cs items =>
      have hlen := items.length_lt
      have hread := readItems_writes h rest items ((cs ++ rest).length + 1)
        (by rw [List.length_append]; omega)
      rw [List.cons_append, list_read_cons item (by decide), if_pos rfl, toOption_bind, hread]
      cases ts.mapM item.meaning with
      | none => rfl
      | some as =>
          show (closeSequence (']' :: rest) >>= fun cs => pure (as, cs)).toOption = _
          rw [closeSequence_close]
          rfl

theorem list_uniform {item : Codec α} (h : item.Uniform) : item.list.Uniform where
  blanks := fun _ cs h => list_blanks item h cs
  settled := by
    intro t
    cases t with
    | sequence ts => exact ⟨ts.mapM item.meaning, fun u rest text _ => list_reads h rest text⟩
    | word w => exact settled_of_refused (list_refused item (by simp))
    | text s => exact settled_of_refused (list_refused item (by simp))
    | record ms => exact settled_of_refused (list_refused item (by simp))
  parses := by
    intro cs as rest read
    unfold list at read
    dsimp only at read
    split at read
    next => cases read
    next c cs' next =>
      obtain ⟨ws, blank, rfl⟩ := exists_spaces_of_cons next
      split at read
      next hc =>
        replace read := bind_eq_ok_iff.mp read
        obtain ⟨⟨as', cs''⟩, items, read⟩ := read
        replace read := bind_eq_ok_iff.mp read
        obtain ⟨rest', close, read⟩ := read
        injection read with read
        injection read with _ hr
        subst hr hc
        obtain ⟨ts, us, rest'', texts, rfl, rfl⟩ := exists_writes_of_readItems h items
        rw [closeSequence_close] at close
        injection close with close
        subst close
        exact ⟨ws, .sequence ts, _, blank, .sequence texts, rfl⟩
      next => exact absurd read mismatch_ne_ok

/-- **An array means the list of what its elements mean.** -/
theorem meaning_list {item : Codec α} (h : item.Uniform) (ts : List Tree) :
    item.list.meaning (.sequence ts) = ts.mapM item.meaning :=
  meaning_eq fun _ rest text _ => list_reads h rest text

/-! ## §3. Options. -/

theorem optional_read_cons (item : Codec α) {c : Char} (blank : isSpace c = false)
    (notNull : c ≠ 'n') (cs : List Char) :
    item.optional.read (c :: cs) = (item.read (c :: cs)).map fun r => (some r.1, r.2) := by
  unfold optional
  dsimp only
  rw [skipSpaces_cons blank]
  split
  next he => exact absurd (List.cons.inj he).1 notNull
  next => rfl

/-- A text that does not begin as `null` does is one of the value. -/
theorem optional_settled {item : Codec α} (h : item.Uniform) {t : Tree}
    (notNull : ∀ c u, Writes t (c :: u) → c ≠ 'n') : ∃ o : Option (Option α), ∀ u rest,
    Writes t u → Ends rest →
      (item.optional.read (u ++ rest)).toOption = o.map fun a => (a, rest) := by
  refine ⟨(item.meaning t).map some, fun u rest text ends => ?_⟩
  have hread := h.reads text ends
  obtain ⟨c, cs, rfl, head⟩ := text.head
  rw [List.cons_append] at hread ⊢
  rw [optional_read_cons item head.ne.1 (notNull c cs text), toOption_map, hread]
  cases item.meaning t <;> rfl

theorem optional_uniform {item : Codec α} (h : item.Uniform) : item.optional.Uniform where
  blanks := fun _ cs h => optional_blanks item h cs
  settled := by
    intro t
    cases t with
    | word w =>
        rcases w.literal_or_number with he | he | he | ⟨c, cs, he, head⟩
        · refine ⟨some none, fun u rest text _ => ?_⟩
          cases text
          rw [he]
          exact congrArg (fun r => (Except.map (none, ·) r).toOption)
            (readWord_append ['u', 'l', 'l'] rest)
        · refine optional_settled h fun c u text => ?_
          rw [(List.cons.inj (text.word_eq.trans he)).1]
          decide
        · refine optional_settled h fun c u text => ?_
          rw [(List.cons.inj (text.word_eq.trans he)).1]
          decide
        · refine optional_settled h fun d u text => ?_
          rw [(List.cons.inj (text.word_eq.trans he)).1]
          exact numberHead_ne head (by decide)
    | text s =>
        refine optional_settled h fun c u text => ?_
        cases text
        decide
    | sequence ts =>
        refine optional_settled h fun c u text => ?_
        cases text
        decide
    | record ms =>
        refine optional_settled h fun c u text => ?_
        cases text
        decide
  parses := by
    intro cs a rest read
    unfold optional at read
    dsimp only at read
    obtain ⟨ws, blank, split⟩ := exists_spaces cs
    split at read
    next cs' next =>
      obtain ⟨rest', word, he⟩ := map_eq_ok_iff.mp read
      injection he with _ he
      subst he
      rw [split, next, eq_append_of_readWord word]
      exact ⟨ws, .word ⟨_, .null⟩, _, blank, .word _, rfl⟩
    next =>
      obtain ⟨⟨a', rest'⟩, value, he⟩ := map_eq_ok_iff.mp read
      injection he with _ he
      subst he
      obtain ⟨ws', t, u, blank', text, split'⟩ := h.parses _ _ _ value
      rw [split, split']
      exact ⟨ws ++ ws', t, u, List.forall_mem_append.mpr ⟨blank, blank'⟩, text, by simp⟩

/-! ## §4. Whole texts. -/

/-- **A text is decoded exactly if its tree has a meaning**, and as that. -/
theorem Uniform.decode_eq_ok_iff {codec : Codec α} (h : codec.Uniform) {t : Tree} {body : String}
    (text : t.IsText body) {a : α} : codec.decode body = .ok a ↔ codec.meaning t = some a := by
  obtain ⟨ws, u, ws', blank, writes, blank', split⟩ := text
  have ends : Ends ws' := by
    rw [← List.append_nil ws']
    exact ends_append blank' ends_nil
  have none : skipSpaces ws' = [] := by
    rw [← List.append_nil ws', skipSpaces_append blank']
    rfl
  have read : (codec.read body.toList).toOption = (codec.meaning t).map fun a => (a, ws') := by
    rw [split, h.blanks ws _ blank, h.reads writes ends]
  rw [← toOption_eq_some_iff, decode, toOption_bind, read]
  cases codec.meaning t with
  | none => simp
  | some b =>
      show (if (skipSpaces ws').isEmpty then Except.ok b else _).toOption = some a ↔ some b = some a
      rw [none]
      rfl

/-- **What was decoded is the text of a tree.** -/
theorem Uniform.exists_tree {codec : Codec α} (h : codec.Uniform) {body : String} {a : α}
    (decoded : codec.decode body = .ok a) : ∃ t : Tree, t.IsText body := by
  unfold decode at decoded
  replace decoded := bind_eq_ok_iff.mp decoded
  obtain ⟨⟨b, rest⟩, read, decoded⟩ := decoded
  obtain ⟨ws, t, u, blank, text, split⟩ := h.parses _ _ _ read
  dsimp only at decoded
  split at decoded
  next empty =>
    obtain ⟨ws', blank', split'⟩ := exists_spaces rest
    rw [List.isEmpty_iff.mp empty, List.append_nil] at split'
    exact ⟨t, ws, u, ws', blank, text, blank', split' ▸ split⟩
  next => cases decoded

end Codec

end TunnelControl.Json
