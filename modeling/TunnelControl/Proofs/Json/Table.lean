/-
  TunnelControl.Proofs.Json.Table
  ───────────────────────────────
  **A TABLE IS READ BACK FROM ANY LAYOUT.**

  A table is an object whose names are free.  Its members may come in any
  order: each is inserted at the place of its name, so that a map in
  ascending order is found again.  The layout over several lines is one of
  those that are read.

    • `spells_pretty`                  — the layout over several lines,
    • `readEntries_reads`              — the members of an object,
    • `table_reads`, `table_decode_of_spells`,
    • `table_decode_encodePretty`      — what is written is read back,
    • `ordered_of_table_decode`        — whatever is read is in order.
-/
import Mathlib.Data.List.Perm.Basic
import TunnelControl.Proofs.Entries.Order
import TunnelControl.Proofs.Json.Record
import TunnelControl.Proofs.Outcomes

namespace TunnelControl.Json

/-! ## §1. The layout over several lines. -/

theorem spaces_newLine (depth : Nat) : Spaces (newLine depth) := by
  intro c hc
  rcases List.mem_cons.mp hc with rfl | hc
  · decide
  · rw [(List.mem_replicate.mp hc).2]
    decide

theorem lead_newLine (depth : Nat) : Lead false (',' :: newLine depth) :=
  @Lead.next [] (newLine depth) spaces_nil (spaces_newLine depth)

/-- With one blank behind the colon, a member and what follows. -/
theorem spellsMembers_spaced {first : Bool} {k : String} {v : Value} {ms : List (String × Value)}
    {lead cs rest : List Char} (before : Lead first lead) (value : Spells v cs)
    (more : SpellsMembers false ms rest) :
    SpellsMembers first ((k, v) :: ms) (lead ++ (quote k ++ ':' :: ' ' :: (cs ++ rest))) := by
  have blank : Spaces [' '] := by
    intro c hc
    rw [List.mem_singleton.mp hc]
    decide
  exact @SpellsMembers.member first k v ms lead [] [' '] cs rest before spaces_nil blank value more

mutual

/-- **The text over several lines is a layout of its value.** -/
theorem spells_pretty (depth : Nat) : (v : Value) → Spells v (v.prettyChars depth)
  | .null => .null
  | .boolean true => .yes
  | .boolean false => .no
  | .integer i => .integer i
  | .text s => .text s
  | .sequence [] => .sequence (spellsItems_close true)
  | .sequence (v :: vs) => by
      rw [Value.prettyChars, List.append_assoc]
      exact .sequence (.item (.first (spaces_newLine (depth + 1))) (spells_pretty (depth + 1) v)
        (spellsItems_pretty depth vs))
  | .record [] => .record (.refl []) (spellsMembers_close true)
  | .record ((_, v) :: ms) => by
      rw [Value.prettyChars, List.append_assoc]
      exact .record (.refl _) (spellsMembers_spaced (.first (spaces_newLine (depth + 1)))
        (spells_pretty (depth + 1) v) (spellsMembers_pretty depth ms))

theorem spellsItems_pretty (depth : Nat) :
    (vs : List Value) → SpellsItems false vs (prettyItems depth vs)
  | [] => .close (spaces_newLine depth)
  | v :: vs => by
      rw [prettyItems, List.append_assoc, ← List.cons_append]
      exact .item (lead_newLine (depth + 1)) (spells_pretty (depth + 1) v)
        (spellsItems_pretty depth vs)

theorem spellsMembers_pretty (depth : Nat) :
    (ms : List (String × Value)) → SpellsMembers false ms (prettyMembers depth ms)
  | [] => .close (spaces_newLine depth)
  | (_, v) :: ms => by
      rw [prettyMembers, List.append_assoc, ← List.cons_append]
      exact spellsMembers_spaced (lead_newLine (depth + 1)) (spells_pretty (depth + 1) v)
        (spellsMembers_pretty depth ms)

end

/-! ## §2. Members in order. -/

/-- Members whose names ascend stay as they are when they are sorted, if their
values do. -/
theorem sortedMembers_of_ordered {ms : List (String × Value)} (ordered : Entries.Ordered ms)
    (values : ∀ m ∈ ms, m.2.sorted = m.2) : sortedMembers ms = ms := by
  induction ms with
  | nil => rfl
  | cons m ms ih =>
      obtain ⟨k, v⟩ := m
      have rest : sortedMembers ms = ms :=
        ih (List.pairwise_cons.mp ordered).2 fun m hm => values m (List.mem_cons_of_mem _ hm)
      have value : v.sorted = v := values (k, v) List.mem_cons_self
      have fresh : (Entries.get? k ms).isSome = false := by
        rw [ordered.get?_tail]
        rfl
      rw [sortedMembers, rest, value]
      simp only [fresh]
      exact Entries.insert_of_forall_lt (List.pairwise_cons.mp ordered).1 v

/-- Another order of a mapped list is that list mapped in another order. -/
theorem exists_perm_of_map {α β : Type} {f : α → β} {l : List α} {l' : List β}
    (perm : l'.Perm (l.map f)) : ∃ l'' : List α, l''.Perm l ∧ l' = l''.map f := by
  obtain ⟨l'', same, perm⟩ := (congrFun₂ (List.eq_map_comp_perm f) l' l).mpr perm
  exact ⟨l'', perm, same⟩

namespace Codec

variable {α : Type}

/-- The members of a table. -/
def entryMembers (item : Codec α) (m : Entries α) : List (String × Value) :=
  m.map fun e => (e.1, item.toValue e.2)

theorem ordered_entryMembers (item : Codec α) {m : Entries α} (h : m.Ordered) :
    Entries.Ordered (item.entryMembers m) :=
  List.pairwise_map.mpr h

/-! ## §3. Reading. -/

/-- **The members of an object are inserted one after the other**, if the value
of each is read for some result. -/
theorem readEntries_reads {β : Type} {item : Reader α}
    (blanks : ∀ ws cs, Spaces ws → item (ws ++ cs) = item cs) (value : β → Value) (result : β → α)
    {pairs : List (String × β)} (reads : ∀ e ∈ pairs, Reads item (value e.2) (result e.2))
    {first : Bool} {cs : List Char}
    (spells : SpellsMembers first (pairs.map fun e => (e.1, value e.2)) cs) (entries : Entries α)
    (fuel : Nat) (enough : pairs.length < fuel) (rest : List Char) :
    readEntries item fuel first entries (cs ++ rest)
      = .ok (pairs.foldl (fun m e => Entries.insert e.1 (result e.2) m) entries, rest) := by
  induction pairs generalizing first cs entries fuel with
  | nil =>
      obtain ⟨n, rfl⟩ := Nat.exists_eq_add_one.mpr (Nat.zero_lt_of_lt enough)
      cases spells with
      | close blank =>
          rw [readEntries, List.append_assoc, List.singleton_append,
            Fields.nextName_close first blank]
          rfl
  | cons e pairs ih =>
      obtain ⟨n, rfl⟩ := Nat.exists_eq_add_one.mpr (Nat.zero_lt_of_lt enough)
      obtain ⟨name, b⟩ := e
      rw [List.length_cons] at enough
      rw [List.map_cons] at spells
      cases spells with
      | @member _ _ _ _ lead ws ws' cs rest' before left right spelled more =>
          -- what follows the value begins with a blank, a comma or the brace
          have hread := reads _ List.mem_cons_self cs (rest' ++ rest) spelled (more.ends rest)
          have hmore := ih (fun e he => reads e (List.mem_cons_of_mem _ he)) more
            (Entries.insert name (result b) entries) n (by omega)
          have hname := Fields.nextName_quote before name
            (ws ++ ':' :: (ws' ++ (cs ++ (rest' ++ rest))))
          rw [readEntries]
          simp only [List.append_assoc, List.cons_append] at hname ⊢
          rw [hname]
          simp only [bind, Except.bind, readColon_append left, blanks ws' _ right, hread, hmore,
            List.foldl_cons]

/-- **A table in order is read from each of its layouts.** -/
theorem table_reads {item : Codec α} (h : item.Lawful) {m : Entries α} (ordered : m.Ordered)
    {cs : List Char} (spells : Spells (item.table.toValue m) cs) (rest : List Char) :
    item.table.read (cs ++ rest) = .ok (m, rest) := by
  cases spells with
  | @record _ ms cs perm members =>
      obtain ⟨pairs, permuted, rfl⟩ := exists_perm_of_map perm
      have hlen := members.length_lt
      rw [List.length_map] at hlen
      have hread := readEntries_reads h.blanks item.toValue id (fun e _ => h.reads e.2) members []
        ((cs ++ rest).length + 1) (by rw [List.length_append]; omega) rest
      have same : pairs.foldl (fun m e => Entries.insert e.1 (id e.2) m) [] = m :=
        Entries.ofList_perm ordered permuted
      unfold table
      simp only [List.cons_append, skipSpaces_cons (c := Char.ofNat 0x7B) (by decide)]
      rw [if_pos trivial, hread, same]

/-- **A table in order is decoded from each of its layouts.** -/
theorem table_decode_of_spells {item : Codec α} (h : item.Lawful) {m : Entries α}
    (ordered : m.Ordered) {cs : List Char} (spells : Spells (item.table.toValue m) cs) :
    item.table.decode (String.ofList cs) = .ok m := by
  have hread := table_reads h ordered spells []
  rw [List.append_nil] at hread
  unfold decode
  rw [String.toList_ofList, hread]
  rfl

/-- A table in order is its own sorted form. -/
theorem table_sorted {item : Codec α} (flat : ∀ a, (item.toValue a).sorted = item.toValue a)
    {m : Entries α} (ordered : m.Ordered) :
    (item.table.toValue m).sorted = item.table.toValue m := by
  have members : sortedMembers (item.entryMembers m) = item.entryMembers m := by
    refine sortedMembers_of_ordered (ordered_entryMembers item ordered) fun member hm => ?_
    obtain ⟨e, -, rfl⟩ := List.mem_map.mp hm
    exact flat e.2
  show Value.sorted (.record (item.entryMembers m)) = .record (item.entryMembers m)
  rw [Value.sorted, members]

/-- **What is written of a table over several lines is read back.** -/
theorem table_decode_encodePretty {item : Codec α} (h : item.Lawful)
    (flat : ∀ a, (item.toValue a).sorted = item.toValue a) {m : Entries α}
    (ordered : m.Ordered) : item.table.decode (item.table.encodePretty m) = .ok m := by
  unfold encodePretty
  rw [table_sorted flat ordered]
  exact table_decode_of_spells h ordered (spells_pretty 0 _)

/-! ## §4. Whatever is read is in order. -/

theorem ordered_of_readEntries {item : Reader α} {fuel : Nat} {first : Bool} {m m' : Entries α}
    {cs rest : List Char} (ordered : m.Ordered) (read : readEntries item fuel first m cs = .ok (m', rest)) :
    m'.Ordered := by
  induction fuel generalizing first m cs with
  | zero => cases read
  | succ n ih =>
      rw [readEntries] at read
      obtain ⟨⟨name, cs'⟩, -, read⟩ := bind_eq_ok_iff.mp read
      cases name with
      | none =>
          injection read with read
          injection read with same
          exact same ▸ ordered
      | some name =>
          obtain ⟨_, -, read⟩ := bind_eq_ok_iff.mp read
          obtain ⟨⟨a, _⟩, -, read⟩ := bind_eq_ok_iff.mp read
          exact ih (Entries.ordered_insert ordered name a) read

theorem ordered_of_table_decode {item : Codec α} {text : String} {m : Entries α}
    (decoded : item.table.decode text = .ok m) : m.Ordered := by
  obtain ⟨⟨m', rest⟩, read, whole⟩ := bind_eq_ok_iff.mp decoded
  have same : m' = m := by
    simp only [] at whole
    split at whole
    next =>
      injection whole with whole
    next => cases whole
  subst same
  simp only [table] at read
  split at read
  next => cases read
  next c cs _ =>
    split at read
    next => exact ordered_of_readEntries Entries.ordered_nil read
    next =>
      unfold mismatch at read
      split at read
      next => cases read
      next => cases read

end Codec

end TunnelControl.Json
