/-
  TunnelControl.Proofs.Json.Generic
  ─────────────────────────────────
  **A VALUE THAT IS READ AS SUCH IS WRITTEN AS ITSELF.**

  Read without knowing its type, a text gives its value with the members of
  every record in order of their names.  Whatever order that is, a layout of
  the ordered value is a layout of the value as it was: who knows the type
  reads the same from both texts.

    • `sortedMembers_perm`, `ordered_sortedMembers` — what ordering does,
    • `Fits`                                  — the values that can be read,
    • `Spells.of_sorted`                      — layouts of the ordered value,
    • `Fits.reads`, `Fits.decode_of_spells`   — the reader,
    • `Codec.Lawful.decode_sorted`            — the ordered text, read in its type.
-/
import TunnelControl.Json.Generic
import TunnelControl.Proofs.Json.Table

namespace TunnelControl.Json

/-! ## §1. Members in order. -/

theorem sortedItems_eq (vs : List Value) : sortedItems vs = vs.map Value.sorted := by
  induction vs with
  | nil => rfl
  | cons v vs ih => rw [sortedItems, ih, List.map_cons]

theorem ordered_sortedMembers (ms : List (String × Value)) :
    Entries.Ordered (sortedMembers ms) := by
  induction ms with
  | nil => exact Entries.ordered_nil
  | cons m ms ih =>
      obtain ⟨k, v⟩ := m
      rw [sortedMembers]
      split
      next => exact ih
      next => exact Entries.ordered_insert ih k v.sorted

/-- A member with its value in order. -/
def sortedMember (m : String × Value) : String × Value := (m.1, m.2.sorted)

/-- **Members of different names only change their places.** -/
theorem sortedMembers_perm {ms : List (String × Value)} (nodup : (ms.map (·.1)).Nodup) :
    (sortedMembers ms).Perm (ms.map sortedMember) := by
  induction ms with
  | nil => exact .refl _
  | cons m ms ih =>
      obtain ⟨k, v⟩ := m
      rw [List.map_cons, List.nodup_cons] at nodup
      replace ih := ih nodup.2
      -- the names that are in order already are those of the other members
      have fresh : Entries.get? k (sortedMembers ms) = none := by
        rw [Entries.get?_eq_none_iff]
        intro e he same
        obtain ⟨m, hm, rfl⟩ := List.mem_map.mp (ih.mem_iff.mp he)
        exact nodup.1 (List.mem_map.mpr ⟨m, hm, same⟩)
      rw [sortedMembers, fresh]
      exact (Entries.insert_perm fresh v.sorted).trans (ih.cons (k, v.sorted))

/-! ## §2. Values that can be read. -/

/-- A value can be read without knowing its type: its numbers have at most 64
bits, no record names a member twice, and nothing is nested too deep. -/
inductive Fits : Nat → Value → Prop where
  | null {depth : Nat} : Fits depth .null
  | boolean {depth : Nat} (b : Bool) : Fits depth (.boolean b)
  | integer {depth : Nat} {i : Int} (low : Int64.minValue.toInt ≤ i) (high : i < UInt64.size) :
      Fits depth (.integer i)
  | text {depth : Nat} (s : String) : Fits depth (.text s)
  | sequence {depth : Nat} {vs : List Value} (items : ∀ v ∈ vs, Fits depth v) :
      Fits (depth + 1) (.sequence vs)
  | record {depth : Nat} {ms : List (String × Value)} (names : (ms.map (·.1)).Nodup)
      (members : ∀ m ∈ ms, Fits depth m.2) : Fits (depth + 1) (.record ms)

/-! ## §3. Layouts of the ordered value. -/

theorem spellsItems_of_sorted {vs : List Value}
    (items : ∀ v ∈ vs, ∀ cs, Spells v.sorted cs → Spells v cs) {first : Bool} {cs : List Char}
    (spells : SpellsItems first (vs.map Value.sorted) cs) : SpellsItems first vs cs := by
  induction vs generalizing first cs with
  | nil =>
      cases spells with
      | close blank => exact .close blank
  | cons v vs ih =>
      rw [List.map_cons] at spells
      cases spells with
      | item before element more =>
          exact .item before (items v List.mem_cons_self _ element)
            (ih (fun v' hv => items v' (List.mem_cons_of_mem v hv)) more)

theorem spellsMembers_of_sorted {ms : List (String × Value)}
    (members : ∀ m ∈ ms, ∀ cs, Spells m.2.sorted cs → Spells m.2 cs) {first : Bool}
    {cs : List Char} (spells : SpellsMembers first (ms.map sortedMember) cs) :
    SpellsMembers first ms cs := by
  induction ms generalizing first cs with
  | nil =>
      cases spells with
      | close blank => exact .close blank
  | cons m ms ih =>
      rw [List.map_cons] at spells
      cases spells with
      | member before left right value more =>
          exact .member before left right (members m List.mem_cons_self _ value)
            (ih (fun m' hm => members m' (List.mem_cons_of_mem m hm)) more)

/-- **A layout of the ordered value is a layout of the value.** -/
theorem Spells.of_sorted {depth : Nat} {v : Value} (fits : Fits depth v) {cs : List Char}
    (spells : Spells v.sorted cs) : Spells v cs := by
  induction fits generalizing cs with
  | null => exact spells
  | boolean b => exact spells
  | integer low high => exact spells
  | text s => exact spells
  | sequence items ih =>
      rw [Value.sorted, sortedItems_eq] at spells
      cases spells with
      | sequence items => exact .sequence (spellsItems_of_sorted (fun v hv _ => ih v hv) items)
  | record names members ih =>
      rw [Value.sorted] at spells
      cases spells with
      | record order members =>
          -- the members stand in some order, which is one of the given members too
          obtain ⟨ms', perm, rfl⟩ := exists_perm_of_map (order.trans (sortedMembers_perm names))
          exact .record perm
            (spellsMembers_of_sorted (fun m hm _ => ih m (perm.mem_iff.mp hm)) members)

/-! ## §4. Reading. -/

namespace Codec

theorem readValue_blanks (depth : Nat) (ws cs : List Char) (blank : Spaces ws) :
    readValue depth (ws ++ cs) = readValue depth cs := by
  cases depth with
  | zero =>
      rw [readValue, readValue, skipSpaces_append blank]
  | succ depth =>
      rw [readValue, readValue, skipSpaces_append blank]

/-- A value that is neither an array nor an object is read the same at every
depth. -/
theorem readValue_leaf (depth : Nat) {c : Char} (blank : isSpace c = false)
    (other : c ≠ '[' ∧ c ≠ Char.ofNat 0x7B) (cs : List Char) :
    readValue depth (c :: cs) = readLeaf c cs := by
  cases depth with
  | zero =>
      rw [readValue, skipSpaces_cons blank]
  | succ depth =>
      rw [readValue, skipSpaces_cons blank]
      simp only [if_neg other.1, if_neg other.2]

/-- A number of at most 64 bits. -/
theorem reads_integer {i : Int} (low : Int64.minValue.toInt ≤ i) (high : i < UInt64.size)
    (depth : Nat) : Reads (readValue depth) (.integer i) (.integer i) := by
  intro cs rest spells ends
  cases spells with
  | integer =>
      have hread := readNumber_signed low high ends
      obtain ⟨c, cs, hc, hhead⟩ := signedDecimal_head i
      rw [hc, List.cons_append] at hread ⊢
      rw [readValue_leaf depth (numberHead_isSpace hhead)
        ⟨numberHead_ne hhead (by decide), numberHead_ne hhead (by decide)⟩]
      unfold readLeaf
      rw [if_neg (numberHead_ne hhead (by decide)), if_neg (numberHead_ne hhead (by decide)),
        if_neg (numberHead_ne hhead (by decide)), if_pos hhead, hread]
      rfl

theorem reads_text (depth : Nat) (s : String) : Reads (readValue depth) (.text s) (.text s) := by
  intro cs rest spells _
  cases spells with
  | text =>
      have hquote : quote s ++ rest = '"' :: ((quote s).tail ++ rest) := rfl
      rw [hquote, readValue_leaf depth (by decide) (by decide)]
      show (readText ((quote s).tail ++ rest)).map _ = _
      rw [readText_quote]
      rfl

theorem reads_null (depth : Nat) : Reads (readValue depth) .null .null := by
  intro cs rest spells _
  cases spells with
  | null =>
      rw [List.cons_append, readValue_leaf depth (by decide) (by decide)]
      exact congrArg (Except.map (Value.null, ·)) (readWord_append ['u', 'l', 'l'] rest)

theorem reads_boolean (depth : Nat) (b : Bool) :
    Reads (readValue depth) (.boolean b) (.boolean b) := by
  intro cs rest spells _
  cases spells with
  | yes =>
      rw [List.cons_append, readValue_leaf depth (by decide) (by decide)]
      exact congrArg (Except.map (Value.boolean true, ·)) (readWord_append ['r', 'u', 'e'] rest)
  | no =>
      rw [List.cons_append, readValue_leaf depth (by decide) (by decide)]
      exact congrArg (Except.map (Value.boolean false, ·))
        (readWord_append ['a', 'l', 's', 'e'] rest)

/-- An array whose elements are read. -/
theorem reads_sequence {depth : Nat} {vs : List Value}
    (items : ∀ v ∈ vs, Reads (readValue depth) v v.sorted) :
    Reads (readValue (depth + 1)) (.sequence vs) (Value.sequence vs).sorted := by
  intro cs rest spells _
  cases spells with
  | @sequence _ cs spelled =>
      -- each element takes a character, so the bound on their number is no limit
      have hlen := spelled.length_lt
      rw [← List.map_id vs] at spelled
      have hread := readItems_reads id Value.sorted items rest spelled ((cs ++ rest).length + 1)
        (by rw [List.length_append]; omega)
      rw [readValue, List.cons_append, skipSpaces_cons (by decide), Value.sorted, sortedItems_eq]
      simp only [if_true, hread, bind, Except.bind, closeSequence_close]
      rfl

/-- An object whose members are read, in any order. -/
theorem reads_record {depth : Nat} {ms : List (String × Value)} (names : (ms.map (·.1)).Nodup)
    (members : ∀ m ∈ ms, Reads (readValue depth) m.2 m.2.sorted) :
    Reads (readValue (depth + 1)) (.record ms) (Value.record ms).sorted := by
  intro cs rest spells _
  cases spells with
  | @record _ ms' cs perm spelled =>
      have hlen := spelled.length_lt
      have same : ms' = ms'.map fun m => (m.1, id m.2) := (List.map_id ms').symm
      rw [same] at spelled
      have hread := readEntries_reads (readValue_blanks depth) id Value.sorted
        (fun m hm => members m (perm.mem_iff.mp hm)) spelled [] ((cs ++ rest).length + 1)
        (by rw [List.length_append]; omega) rest
      -- whatever order they come in, they are inserted at their places
      have placed : ms'.foldl (fun es m => Entries.insert m.1 m.2.sorted es) [] = sortedMembers ms := by
        rw [← Entries.ofList_perm (ordered_sortedMembers ms)
          ((perm.map sortedMember).trans (sortedMembers_perm names).symm), Entries.ofList,
          List.foldl_map]
        rfl
      rw [readValue, List.cons_append, skipSpaces_cons (by decide), Value.sorted, ← placed]
      simp only [if_neg (show Char.ofNat 0x7B ≠ '[' by decide), if_true, hread]
      rfl

end Codec

/-- **A value that fits is read from each of its layouts**, and comes out in
order. -/
theorem Fits.reads {depth : Nat} {v : Value} (fits : Fits depth v) :
    Codec.Reads (Codec.readValue depth) v v.sorted := by
  induction fits with
  | null => exact Codec.reads_null _
  | boolean b => exact Codec.reads_boolean _ b
  | integer low high => exact Codec.reads_integer low high _
  | text s => exact Codec.reads_text _ s
  | sequence _ ih => exact Codec.reads_sequence ih
  | record names _ ih => exact Codec.reads_record names ih

/-! ## §5. Whole texts. -/

/-- **Each layout of a value is decoded to the ordered value.** -/
theorem Fits.decode_of_spells {v : Value} (fits : Fits Codec.maxDepth v) {cs : List Char}
    (spells : Spells v cs) : Codec.value.decode (String.ofList cs) = .ok v.sorted := by
  have hread := fits.reads cs [] spells ends_nil
  rw [List.append_nil] at hread
  unfold Codec.decode
  rw [String.toList_ofList, Codec.value]
  simp only [hread]
  rfl

/-- **The ordered value, over several lines, is decoded to what was written.** -/
theorem Codec.Lawful.decode_sorted {α : Type} {codec : Codec α} (h : codec.Lawful) {a : α}
    {depth : Nat} (fits : Fits depth (codec.toValue a)) {ws : List Char} (blank : Spaces ws) :
    codec.decode (codec.encodePretty a ++ String.ofList ws) = .ok a := by
  have spells := Spells.of_sorted fits (spells_pretty 0 (codec.toValue a).sorted)
  have hread := h.reads a _ ws spells (List.append_nil ws ▸ ends_append blank ends_nil)
  unfold encodePretty Value.pretty decode
  rw [String.toList_append, String.toList_ofList, String.toList_ofList, hread]
  have left : skipSpaces ws = [] := by
    rw [← List.append_nil ws, skipSpaces_append blank]
    rfl
  simp only [bind, Except.bind, left]
  rfl

end TunnelControl.Json
