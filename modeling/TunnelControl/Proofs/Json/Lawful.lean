/-
  TunnelControl.Proofs.Json.Lawful
  ────────────────────────────────
  **WHAT A CODEC WRITES IT READS BACK.**

  A codec is lawful if it reads a value back from every layout of it, with
  whatever follows left over.  Leaves are lawful, lists and options of lawful
  codecs are; for whole texts this is the round trip.

    • `Codec.Lawful`                      — the law,
    • `Reads`, `readItems_reads`          — one value, and the elements of an array,
    • `text_lawful`, `boolean_lawful`, `integer_lawful`, `list_lawful`,
      `optional_lawful`                   — the codecs that keep it,
    • `Lawful.decode_of_spells`, `Lawful.decode_encode`, `RoundTrips` — whole texts.
-/
import TunnelControl.Proofs.Json.Layout

namespace TunnelControl.Json.Codec

variable {α : Type}

/-- A reader takes each layout of a value for `a`, and leaves what follows. -/
def Reads (read : Reader α) (v : Value) (a : α) : Prop :=
  ∀ cs rest, Spells v cs → Ends rest → read (cs ++ rest) = .ok (a, rest)

/-- A value is read back from each of its layouts. -/
structure Lawful (codec : Codec α) : Prop where
  /-- Blanks before a value are skipped. -/
  blanks : ∀ ws cs, Spaces ws → codec.read (ws ++ cs) = codec.read cs
  /-- The value is read, and what follows is left over. -/
  reads : ∀ a cs rest, Spells (codec.toValue a) cs → Ends rest →
    codec.read (cs ++ rest) = .ok (a, rest)

/-! ## §1. Leaves. -/

theorem text_lawful : text.Lawful where
  blanks := by
    intro ws cs h
    unfold text
    simp only [skipSpaces_append h]
  reads := by
    intro s cs rest h _
    cases h with
    | text =>
        have hquote : quote s ++ rest = '"' :: ((quote s).tail ++ rest) := rfl
        unfold text
        simp only [hquote, skipSpaces_cons (c := '"') (by decide)]
        rw [if_pos trivial]
        exact readText_quote s rest

theorem boolean_lawful : boolean.Lawful where
  blanks := by
    intro ws cs h
    unfold boolean
    simp only [skipSpaces_append h]
  reads := by
    intro b cs rest h _
    cases b with
    | true =>
        cases h with
        | yes =>
            have hword := readWord_append ['r', 'u', 'e'] rest
            unfold boolean
            simp only [List.cons_append, List.nil_append, skipSpaces_cons (c := 't') (by decide)]
            rw [if_pos trivial]
            exact congrArg (Except.map (true, ·)) hword
    | false =>
        cases h with
        | no =>
            have hword := readWord_append ['a', 'l', 's', 'e'] rest
            unfold boolean
            simp only [List.cons_append, List.nil_append, skipSpaces_cons (c := 'f') (by decide)]
            rw [if_neg (by decide), if_pos trivial]
            exact congrArg (Except.map (false, ·)) hword

theorem readInteger_append {ws : List Char} (h : Spaces ws) (expected : String) (low high : Int)
    (cs : List Char) :
    readInteger expected low high (ws ++ cs) = readInteger expected low high cs := by
  unfold readInteger
  simp only [skipSpaces_append h]

/-- A whole number within its bounds is read back. -/
theorem readInteger_signed (expected : String) (low high i : Int)
    (hlow : Int64.minValue.toInt ≤ low) (hhigh : high < UInt64.size) (hi : low ≤ i ∧ i ≤ high)
    {rest : List Char} (ends : Ends rest) :
    readInteger expected low high (Text.signedDecimal i ++ rest) = .ok (i, rest) := by
  have hread := readNumber_signed (i := i) (by omega) (by omega) ends
  obtain ⟨c, cs, hc, hhead⟩ := signedDecimal_head i
  rw [hc, List.cons_append] at hread ⊢
  unfold readInteger
  simp only [skipSpaces_cons (numberHead_isSpace hhead)]
  rw [if_pos hhead, hread]
  show (if low ≤ i ∧ i ≤ high then Except.ok (i, rest) else _) = _
  rw [if_pos hi]

/-- A codec of whole numbers is lawful if all values lie within its bounds, and
these within 64 bits. -/
theorem integer_lawful {codec : Codec α} (expected : String) (low high : Int) (ofInt : Int → α)
    (toInt : α → Int)
    (read : ∀ cs, codec.read cs = (readInteger expected low high cs).map fun r => (ofInt r.1, r.2))
    (toValue : ∀ a, codec.toValue a = .integer (toInt a)) (inverse : ∀ a, ofInt (toInt a) = a)
    (range : ∀ a, low ≤ toInt a ∧ toInt a ≤ high) (hlow : Int64.minValue.toInt ≤ low)
    (hhigh : high < UInt64.size) : codec.Lawful where
  blanks := by
    intro ws cs h
    rw [read, read, readInteger_append h]
  reads := by
    intro a cs rest h ends
    rw [toValue] at h
    cases h with
    | integer =>
        rw [read, readInteger_signed expected low high (toInt a) hlow hhigh (range a) ends]
        show Except.ok (ofInt (toInt a), rest) = _
        rw [inverse]

theorem int64_lawful : int64.Lawful :=
  integer_lawful "i64" _ _ Int64.ofInt Int64.toInt (fun _ => rfl) (fun _ => rfl) Int64.ofInt_toInt
    (fun i => ⟨i.minValue_le_toInt, i.toInt_le⟩) (by decide) (by decide)

theorem uint32_lawful : uint32.Lawful := by
  refine integer_lawful "u32" 0 (UInt32.size - 1) (fun i => UInt32.ofNat i.toNat)
    (fun n => n.toNat) (fun _ => rfl) (fun _ => rfl) ?_ ?_ (by decide) (by decide)
  · intro n
    rw [Int.toNat_natCast, UInt32.ofNat_toNat]
  · intro n
    have hn : n.toNat < UInt32.size := n.toNat_lt
    omega

theorem uint16_lawful : uint16.Lawful := by
  refine integer_lawful "u16" 0 (UInt16.size - 1) (fun i => UInt16.ofNat i.toNat)
    (fun n => n.toNat) (fun _ => rfl) (fun _ => rfl) ?_ ?_ (by decide) (by decide)
  · intro n
    rw [Int.toNat_natCast, UInt16.ofNat_toNat]
  · intro n
    have hn : n.toNat < UInt16.size := n.toNat_lt
    omega

/-! ## §2. Lists and options. -/

theorem nextElement_close (first : Bool) {ws : List Char} (h : Spaces ws) (rest : List Char) :
    nextElement first (ws ++ ']' :: rest) = .ok (false, ']' :: rest) := by
  unfold nextElement
  simp only [skipSpaces_append h, skipSpaces_cons (c := ']') (by decide)]
  rw [if_pos trivial]

theorem closeSequence_close (rest : List Char) : closeSequence (']' :: rest) = .ok rest := by
  unfold closeSequence
  simp only [skipSpaces_cons (c := ']') (by decide)]
  rw [if_pos trivial]

theorem nextElement_item {first : Bool} {lead : List Char} (h : Lead first lead) {c : Char}
    (blank : isSpace c = false) (other : c ≠ ']') (cs : List Char) :
    nextElement first (lead ++ c :: cs) = .ok (true, c :: cs) := by
  cases h with
  | first hws =>
      unfold nextElement
      simp only [skipSpaces_append hws, skipSpaces_cons blank]
      rw [if_neg other]
      rfl
  | next hws hws' =>
      unfold nextElement
      simp only [List.append_assoc, List.cons_append, skipSpaces_append hws,
        skipSpaces_cons (c := ',') (by decide), skipSpaces_append hws', skipSpaces_cons blank]
      rw [if_neg (by decide), if_neg (by decide), if_pos trivial, if_neg other]

/-- **The elements of an array are read up to its end**, if each of them is read
for some result. -/
theorem readItems_reads {β : Type} {item : Reader α} (value : β → Value) (result : β → α)
    {bs : List β} (reads : ∀ b ∈ bs, Reads item (value b) (result b)) (rest : List Char)
    {first : Bool} {cs : List Char} (spells : SpellsItems first (bs.map value) cs) (fuel : Nat)
    (enough : bs.length < fuel) :
    readItems item fuel first (cs ++ rest) = .ok (bs.map result, ']' :: rest) := by
  induction bs generalizing first cs fuel with
  | nil =>
      obtain ⟨n, rfl⟩ := Nat.exists_eq_add_one.mpr (Nat.zero_lt_of_lt enough)
      cases spells with
      | close blank =>
          rw [readItems, List.append_assoc]
          show (nextElement first (_ ++ ']' :: rest) >>= _) = _
          rw [nextElement_close first blank]
          rfl
  | cons b bs ih =>
      obtain ⟨n, rfl⟩ := Nat.exists_eq_add_one.mpr (Nat.zero_lt_of_lt enough)
      rw [List.length_cons] at enough
      rw [List.map_cons] at spells
      cases spells with
      | @item _ _ _ lead cs rest' before element more =>
          -- what follows an element begins with a blank, a comma or the bracket
          have hread := reads b List.mem_cons_self cs (rest' ++ rest) element (more.ends rest)
          have hmore := ih (fun b' hb => reads b' (List.mem_cons_of_mem b hb)) more n (by omega)
          obtain ⟨c, cs', rfl, blank, other, -⟩ := element.head
          have hnext := nextElement_item before blank other (cs' ++ (rest' ++ rest))
          rw [readItems]
          simp only [List.append_assoc, List.cons_append] at hread ⊢
          rw [hnext]
          show (item (c :: (cs' ++ (rest' ++ rest))) >>= _) = _
          rw [hread]
          show (readItems item n false (rest' ++ rest) >>= _) = _
          rw [hmore]
          rfl

theorem list_blanks (item : Codec α) {ws : List Char} (h : Spaces ws) (cs : List Char) :
    item.list.read (ws ++ cs) = item.list.read cs := by
  unfold list
  simp only [skipSpaces_append h]

theorem list_lawful {item : Codec α} (h : item.Lawful) : item.list.Lawful where
  blanks := fun _ cs h => list_blanks item h cs
  reads := by
    intro as cs rest spells _
    cases spells with
    | @sequence _ cs items =>
        have hlen := items.length_lt
        rw [List.length_map] at hlen
        have hread := readItems_reads item.toValue id (fun a _ => h.reads a) rest items
          ((cs ++ rest).length + 1) (by rw [List.length_append]; omega)
        rw [List.map_id] at hread
        unfold list
        simp only [List.cons_append, skipSpaces_cons (c := '[') (by decide)]
        rw [if_pos trivial, hread]
        simp only [bind, Except.bind, closeSequence_close]
        rfl

theorem optional_blanks (item : Codec α) {ws : List Char} (h : Spaces ws) (cs : List Char) :
    item.optional.read (ws ++ cs) = item.optional.read cs := by
  unfold optional
  simp only [skipSpaces_append h]

/-- An option of a codec that never writes `null` tells a value from none. -/
theorem optional_lawful {item : Codec α} (h : item.Lawful) (some : ∀ a, item.toValue a ≠ .null) :
    item.optional.Lawful where
  blanks := fun _ cs h => optional_blanks item h cs
  reads := by
    intro a cs rest spells ends
    cases a with
    | none =>
        have spells' : Spells .null cs := spells
        cases spells' with
        | null =>
            have hword := readWord_append ['u', 'l', 'l'] rest
            unfold optional
            simp only [List.cons_append, List.nil_append, skipSpaces_cons (c := 'n') (by decide)]
            exact congrArg (Except.map (Option.none, ·)) hword
    | some a =>
        have spells' : Spells (item.toValue a) cs := spells
        have hread := h.reads a cs rest spells' ends
        obtain ⟨c, cs', rfl, blank, -, notNull⟩ := spells'.head
        -- an `n` would be the beginning of `null`
        have hc : c ≠ 'n' := notNull (some a)
        rw [List.cons_append] at hread ⊢
        unfold optional
        simp only [skipSpaces_cons blank]
        split
        next hn =>
          injection hn with hn
          exact absurd hn hc
        next =>
          rw [hread]
          rfl

/-! ## §3. Whole texts. -/

/-- **Every layout of a value is decoded to it.** -/
theorem Lawful.decode_of_spells {codec : Codec α} (h : codec.Lawful) {a : α} {cs : List Char}
    (spells : Spells (codec.toValue a) cs) : codec.decode (String.ofList cs) = .ok a := by
  have hread := h.reads a cs [] spells ends_nil
  rw [List.append_nil] at hread
  unfold decode
  rw [String.toList_ofList, hread]
  rfl

/-- **What is encoded is decoded to the same value.** -/
theorem Lawful.decode_encode {codec : Codec α} (h : codec.Lawful) (a : α) :
    codec.decode (codec.encode a) = .ok a :=
  h.decode_of_spells (spells_compact (codec.toValue a))

/-- Each value is decoded from the text that it is encoded as. -/
def RoundTrips (codec : Codec α) : Prop := ∀ a, codec.decode (codec.encode a) = .ok a

end TunnelControl.Json.Codec
