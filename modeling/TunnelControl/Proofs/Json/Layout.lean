/-
  TunnelControl.Proofs.Json.Layout
  ────────────────────────────────
  **THE TEXTS OF A VALUE.**

  A value can be laid out in many ways: with blanks between its words, and
  with the members of a record in any order.  All of them spell the value;
  the compact layout is one.

    • `Spells`, `SpellsItems`, `SpellsMembers` — the layouts,
    • `Spells.head`                            — how a text begins,
    • `spells_compact`                         — the compact layout.
-/
import TunnelControl.Proofs.Json.Words

namespace TunnelControl.Json

/-! ## §1. Layouts. -/

/-- What comes before an element or a member: blanks, and a comma unless it is
the first. -/
inductive Lead : Bool → List Char → Prop where
  /-- Before the first. -/
  | first {ws : List Char} (blank : Spaces ws) : Lead true ws
  /-- Before a further one. -/
  | next {ws ws' : List Char} (before : Spaces ws) (after : Spaces ws') :
      Lead false (ws ++ ',' :: ws')

mutual

/-- A text is a layout of a value. -/
inductive Spells : Value → List Char → Prop where
  /-- The literal `null`. -/
  | null : Spells .null ['n', 'u', 'l', 'l']
  /-- The literal `true`. -/
  | yes : Spells (.boolean true) ['t', 'r', 'u', 'e']
  /-- The literal `false`. -/
  | no : Spells (.boolean false) ['f', 'a', 'l', 's', 'e']
  /-- A whole number. -/
  | integer (i : Int) : Spells (.integer i) (Text.signedDecimal i)
  /-- A string. -/
  | text (s : String) : Spells (.text s) (quote s)
  /-- An array. -/
  | sequence {vs : List Value} {cs : List Char} (items : SpellsItems true vs cs) :
      Spells (.sequence vs) ('[' :: cs)
  /-- An object, with its members in any order. -/
  | record {ms ms' : List (String × Value)} {cs : List Char} (perm : ms'.Perm ms)
      (members : SpellsMembers true ms' cs) : Spells (.record ms) (Char.ofNat 0x7B :: cs)

/-- A text is a layout of the elements of an array, up to its end; the flag
says whether the first of them is the first of the array. -/
inductive SpellsItems : Bool → List Value → List Char → Prop where
  /-- The closing bracket. -/
  | close {first : Bool} {ws : List Char} (blank : Spaces ws) : SpellsItems first [] (ws ++ [']'])
  /-- An element and what follows. -/
  | item {first : Bool} {v : Value} {vs : List Value} {lead cs rest : List Char}
      (before : Lead first lead) (element : Spells v cs) (more : SpellsItems false vs rest) :
      SpellsItems first (v :: vs) (lead ++ (cs ++ rest))

/-- A text is a layout of the members of an object, up to its end. -/
inductive SpellsMembers : Bool → List (String × Value) → List Char → Prop where
  /-- The closing brace. -/
  | close {first : Bool} {ws : List Char} (blank : Spaces ws) :
      SpellsMembers first [] (ws ++ [Char.ofNat 0x7D])
  /-- A member and what follows. -/
  | member {first : Bool} {k : String} {v : Value} {ms : List (String × Value)}
      {lead ws ws' cs rest : List Char} (before : Lead first lead) (left : Spaces ws)
      (right : Spaces ws') (value : Spells v cs) (more : SpellsMembers false ms rest) :
      SpellsMembers first ((k, v) :: ms)
        (lead ++ (quote k ++ (ws ++ ':' :: (ws' ++ (cs ++ rest)))))

end

/-! ## §2. How a text begins and ends. -/

theorem signedDecimal_head (i : Int) : ∃ c cs, Text.signedDecimal i = c :: cs
    ∧ (c = '-' ∨ Text.isDigit c = true) := by
  unfold Text.signedDecimal
  split
  next => exact ⟨'-', _, rfl, .inl rfl⟩
  next =>
    obtain ⟨c, cs, hc, digit⟩ := (whole_decimal i.natAbs).head
    exact ⟨c, cs, hc, .inr digit⟩

/-- A sign or a digit is neither a blank nor the beginning of anything else. -/
theorem numberHead_ne {c d : Char} (h : c = '-' ∨ Text.isDigit c = true)
    (other : d ≠ '-' ∧ Text.isDigit d = false) : c ≠ d := by
  rintro rfl
  rcases h with h | h
  · exact other.1 h
  · rw [other.2] at h
    cases h

theorem numberHead_isSpace {c : Char} (h : c = '-' ∨ Text.isDigit c = true) :
    isSpace c = false := by
  have hb := numberHead_ne (d := ' ') h (by decide)
  have hn := numberHead_ne (d := '\n') h (by decide)
  have hr := numberHead_ne (d := '\r') h (by decide)
  have ht := numberHead_ne (d := '\t') h (by decide)
  simp [isSpace, hb, hn, hr, ht]

/-- A layout begins with a character that is no blank and closes nothing; it
is an `n` only if the value is null. -/
theorem Spells.head {v : Value} {cs : List Char} (h : Spells v cs) :
    ∃ c rest, cs = c :: rest ∧ isSpace c = false ∧ c ≠ ']' ∧ (v ≠ .null → c ≠ 'n') := by
  cases h with
  | null => exact ⟨'n', _, rfl, by decide, by decide, fun h => absurd rfl h⟩
  | yes => exact ⟨'t', _, rfl, by decide, by decide, fun _ => by decide⟩
  | no => exact ⟨'f', _, rfl, by decide, by decide, fun _ => by decide⟩
  | integer i =>
      obtain ⟨c, rest, he, hc⟩ := signedDecimal_head i
      exact ⟨c, rest, he, numberHead_isSpace hc, numberHead_ne hc (by decide),
        fun _ => numberHead_ne hc (by decide)⟩
  | text s => exact ⟨'"', _, rfl, by decide, by decide, fun _ => by decide⟩
  | sequence => exact ⟨'[', _, rfl, by decide, by decide, fun _ => by decide⟩
  | record => exact ⟨Char.ofNat 0x7B, _, rfl, by decide, by decide, fun _ => by decide⟩

/-- What follows an element ends a number. -/
theorem SpellsItems.ends {vs : List Value} {cs : List Char} (h : SpellsItems false vs cs)
    (rest : List Char) : Ends (cs ++ rest) := by
  cases h with
  | close blank =>
      rw [List.append_assoc]
      exact ends_append blank (ends_cons (by decide) _)
  | item before =>
      cases before with
      | next before =>
          simp only [List.append_assoc, List.cons_append]
          exact ends_append before (ends_cons (by decide) _)

/-- What follows a member ends a number. -/
theorem SpellsMembers.ends {ms : List (String × Value)} {cs : List Char}
    (h : SpellsMembers false ms cs) (rest : List Char) : Ends (cs ++ rest) := by
  cases h with
  | close blank =>
      rw [List.append_assoc]
      exact ends_append blank (ends_cons (by decide) _)
  | member before =>
      cases before with
      | next before =>
          simp only [List.append_assoc, List.cons_append]
          exact ends_append before (ends_cons (by decide) _)

/-- Each element takes at least one character. -/
theorem SpellsItems.length_lt {first : Bool} {vs : List Value} {cs : List Char}
    (h : SpellsItems first vs cs) : vs.length < cs.length := by
  induction vs generalizing first cs with
  | nil =>
      cases h with
      | close => simp
  | cons v vs ih =>
      cases h with
      | item before element more =>
          obtain ⟨c, rest, rfl, -⟩ := element.head
          have hmore := ih more
          simp only [List.length_append, List.length_cons]
          omega

/-- Each member takes at least one character. -/
theorem SpellsMembers.length_lt {first : Bool} {ms : List (String × Value)} {cs : List Char}
    (h : SpellsMembers first ms cs) : ms.length < cs.length := by
  induction ms generalizing first cs with
  | nil =>
      cases h with
      | close => simp
  | cons m ms ih =>
      cases h with
      | member before left right value more =>
          have hmore := ih more
          simp only [List.length_append, List.length_cons]
          omega

/-! ## §3. The compact layout. -/

theorem lead_comma : Lead false [','] := @Lead.next [] [] spaces_nil spaces_nil

/-- Without blanks, the closing bracket alone. -/
theorem spellsItems_close (first : Bool) : SpellsItems first [] [']'] :=
  @SpellsItems.close first [] spaces_nil

/-- Without blanks, the closing brace alone. -/
theorem spellsMembers_close (first : Bool) : SpellsMembers first [] [Char.ofNat 0x7D] :=
  @SpellsMembers.close first [] spaces_nil

/-- Without blanks around the colon, a member and what follows. -/
theorem spellsMembers_member {first : Bool} {k : String} {v : Value} {ms : List (String × Value)}
    {lead cs rest : List Char} (before : Lead first lead) (value : Spells v cs)
    (more : SpellsMembers false ms rest) :
    SpellsMembers first ((k, v) :: ms) (lead ++ (quote k ++ ':' :: (cs ++ rest))) :=
  @SpellsMembers.member first k v ms lead [] [] cs rest before spaces_nil spaces_nil value more

mutual

/-- **The compact text is a layout of its value.** -/
theorem spells_compact : (v : Value) → Spells v v.compactChars
  | .null => .null
  | .boolean true => .yes
  | .boolean false => .no
  | .integer i => .integer i
  | .text s => .text s
  | .sequence [] => .sequence (spellsItems_close true)
  | .sequence (v :: vs) =>
      .sequence (.item (.first spaces_nil) (spells_compact v) (spellsItems_compact vs))
  | .record [] => .record (.refl []) (spellsMembers_close true)
  | .record ((_, v) :: ms) =>
      .record (.refl _)
        (spellsMembers_member (.first spaces_nil) (spells_compact v) (spellsMembers_compact ms))

theorem spellsItems_compact : (vs : List Value) → SpellsItems false vs (compactItems vs)
  | [] => spellsItems_close false
  | v :: vs => .item lead_comma (spells_compact v) (spellsItems_compact vs)

theorem spellsMembers_compact :
    (ms : List (String × Value)) → SpellsMembers false ms (compactMembers ms)
  | [] => spellsMembers_close false
  | (_, v) :: ms => spellsMembers_member lead_comma (spells_compact v) (spellsMembers_compact ms)

end

end TunnelControl.Json
