/-
  TunnelControl.Proofs.Json.Record
  ────────────────────────────────
  **A RECORD IS READ BACK FROM ITS MEMBERS IN ANY ORDER.**

  Reading fills one slot after the other.  What is filled depends on the
  names that were read and not on their order, and a field that was not
  written has the fallback that it stands for.

    • `Field.Lawful`, `Fields.Lawful` — what a declaration has to keep,
    • `Fields.filled`                 — the slots after some names were read,
    • `readMember_filled`, `readMembers_filled`, `complete_filled`,
    • `record_lawful`.
-/
import TunnelControl.Json.Record
import TunnelControl.Proofs.Json.Lawful

namespace TunnelControl.Json

/-! ## §1. Declarations. -/

/-- A value that is not written is the one that a missing member stands for. -/
structure Field.Lawful {β : Type} (f : Field β) : Prop where
  /-- Its codec is lawful. -/
  codec : f.codec.Lawful
  /-- What is left out can be filled in. -/
  omitted : ∀ a, f.omitted a = true → f.fallback = some a

theorem Field.Lawful.required {β : Type} {codec : Codec β} (h : codec.Lawful) (name : String) :
    (Field.required name codec).Lawful where
  codec := h
  omitted := by
    intro a ha
    cases ha

theorem Field.Lawful.defaulted {β : Type} {codec : Codec β} (h : codec.Lawful) (name : String)
    (fallback : β) : (Field.defaulted name codec fallback).Lawful where
  codec := h
  omitted := by
    intro a ha
    cases ha

theorem Field.Lawful.omittable {β : Type} {codec : Codec β} (h : codec.Lawful)
    (some : ∀ a, codec.toValue a ≠ .null) (name : String) :
    (Field.omittable name codec).Lawful where
  codec := Codec.optional_lawful h some
  omitted := by
    intro a ha
    cases a with
    | none => rfl
    | some a => cases ha

namespace Fields

/-- Every field is lawful and no name is used twice. -/
def Lawful : {βs : List Type} → Fields βs → Prop
  | _, .nil => True
  | _, .cons f rest => f.Lawful ∧ f.name ∉ rest.names ∧ rest.Lawful

/-- The slots once the fields of some names were read. -/
def filled : {βs : List Type} → Fields βs → Row βs → List String → Slots βs
  | _, .nil, _, _ => ()
  | _, .cons f rest, (a, row), names =>
      (if f.name ∈ names then some a else none, rest.filled row names)

theorem filled_nil {βs : List Type} (fields : Fields βs) (row : Row βs) :
    fields.filled row [] = fields.vacant := by
  induction fields with
  | nil => rfl
  | cons f rest ih =>
      obtain ⟨a, row⟩ := row
      rw [filled, vacant, ih row, if_neg List.not_mem_nil]

/-- Reading one name leaves the slots of other names as they are. -/
theorem slot_cons_of_ne {β : Type} {own name : String} (h : own ≠ name) (read : List String)
    (a : β) :
    (if own ∈ name :: read then some a else none) = if own ∈ read then some a else none := by
  by_cases hm : own ∈ read
  · rw [if_pos hm, if_pos (List.mem_cons_of_mem name hm)]
  · rw [if_neg hm, if_neg (by simp [h, hm])]

/-- A name that no field has fills nothing. -/
theorem filled_cons_of_not_mem {βs : List Type} {fields : Fields βs} {row : Row βs} {name : String}
    (h : name ∉ fields.names) (read : List String) :
    fields.filled row (name :: read) = fields.filled row read := by
  induction fields with
  | nil => rfl
  | cons f rest ih =>
      obtain ⟨a, row⟩ := row
      rw [names, List.mem_cons, not_or] at h
      rw [filled, filled, ih h.2, slot_cons_of_ne (Ne.symm h.1)]

/-! ## §2. Members. -/

theorem mem_members_cons {β : Type} {βs : List Type} {f : Field β} {rest : Fields βs} {a : β}
    {row : Row βs} {m : String × Value} :
    m ∈ (Fields.cons f rest).members (a, row)
      ↔ (f.omitted a = false ∧ m = (f.name, f.codec.toValue a)) ∨ m ∈ rest.members row := by
  rw [members]
  cases h : f.omitted a with
  | true => simp
  | false => simp

theorem name_mem_of_mem_members {βs : List Type} {fields : Fields βs} {row : Row βs}
    {m : String × Value} (h : m ∈ fields.members row) : m.1 ∈ fields.names := by
  induction fields with
  | nil => cases h
  | cons f rest ih =>
      obtain ⟨a, row⟩ := row
      rw [names]
      rcases mem_members_cons.mp h with ⟨-, rfl⟩ | h
      · exact List.mem_cons_self
      · exact List.mem_cons_of_mem _ (ih h)

/-- No member is written twice. -/
theorem members_nodup {βs : List Type} {fields : Fields βs} (lawful : fields.Lawful)
    (row : Row βs) :
    ((fields.members row).map (·.1)).Nodup := by
  induction fields with
  | nil => exact List.nodup_nil
  | cons f rest ih =>
      obtain ⟨a, row⟩ := row
      obtain ⟨-, fresh, lawful⟩ := lawful
      rw [members]
      split
      next => exact ih lawful row
      next =>
        rw [List.map_cons, List.nodup_cons]
        refine ⟨fun hm => ?_, ih lawful row⟩
        obtain ⟨m, hm, he⟩ := List.mem_map.mp hm
        have hname := name_mem_of_mem_members hm
        rw [he] at hname
        exact fresh hname

/-- A member is read by the first field of its name, if that has no value yet. -/
theorem readMember_cons_of_eq {β : Type} {βs : List Type} (f : Field β) (others : Fields βs)
    (slots : Slots βs) (cs : List Char) :
    (Fields.cons f others).readMember f.name (none, slots) cs = some (do
      let cs ← readColon cs
      let (a, cs) ← f.codec.read cs
      return ((some a, slots), cs)) := by
  show (if f.name = f.name then _ else _) = _
  rw [if_pos rfl]

theorem readMember_cons_of_ne {β : Type} {βs : List Type} {f : Field β} {name : String}
    (h : f.name ≠ name) (others : Fields βs) (slot : Option β) (slots : Slots βs) (cs : List Char) :
    (Fields.cons f others).readMember name (slot, slots) cs
      = (others.readMember name slots cs).map (·.map fun r => ((slot, r.1), r.2)) := by
  show (if f.name = name then _ else _) = _
  rw [if_neg h]
  rfl

/-- **A member fills the slot of its field**, after its name and a colon. -/
theorem readMember_filled {βs : List Type} {fields : Fields βs} (lawful : fields.Lawful)
    {row : Row βs} {name : String} {v : Value} (member : (name, v) ∈ fields.members row)
    {read : List String} (fresh : name ∉ read) {ws ws' cs rest : List Char} (left : Spaces ws)
    (right : Spaces ws') (value : Spells v cs) (ends : Ends rest) :
    fields.readMember name (fields.filled row read) (ws ++ ':' :: (ws' ++ (cs ++ rest)))
      = some (.ok (fields.filled row (name :: read), rest)) := by
  induction fields with
  | nil => cases member
  | cons f others ih =>
      obtain ⟨a, row⟩ := row
      obtain ⟨hf, unused, others_lawful⟩ := lawful
      rw [filled, filled]
      rcases mem_members_cons.mp member with ⟨-, he⟩ | member
      · -- the member of this field, whose slot is empty
        injection he with hname hv
        subst hname hv
        have hread := hf.codec.reads a cs rest value ends
        rw [if_neg fresh, if_pos List.mem_cons_self, filled_cons_of_not_mem unused,
          readMember_cons_of_eq]
        simp only [readColon_append left, hf.codec.blanks ws' _ right, hread, bind, Except.bind]
        rfl
      · -- the member of a later field, which has another name
        have hother : f.name ≠ name := by
          rintro rfl
          exact unused (name_mem_of_mem_members member)
        rw [readMember_cons_of_ne hother, ih others_lawful member, slot_cons_of_ne hother]
        rfl

/-! ## §3. Objects. -/

theorem nextName_close (first : Bool) {ws : List Char} (h : Spaces ws) (rest : List Char) :
    Codec.nextName first (ws ++ Char.ofNat 0x7D :: rest) = .ok (none, rest) := by
  unfold Codec.nextName
  rw [skipSpaces_append h, skipSpaces_cons (by decide)]
  simp only [if_true]

/-- A name stands at the beginning, or behind a comma. -/
theorem nextName_lead {first : Bool} {lead : List Char} (h : Lead first lead) (cs : List Char) :
    Codec.nextName first (lead ++ '"' :: cs) = (readText cs).map fun r => (some r.1, r.2) := by
  have named : Codec.nextName.named '"' cs = (readText cs).map fun r => (some r.1, r.2) :=
    if_pos rfl
  cases h with
  | first blank =>
      unfold Codec.nextName
      rw [skipSpaces_append_cons blank (by decide)]
      exact named
  | next blank blank' =>
      unfold Codec.nextName
      rw [List.append_assoc, List.cons_append, skipSpaces_append_cons blank (by decide)]
      simp only [skipSpaces_append_cons blank' (c := '"') (by decide)]
      exact named

theorem nextName_quote {first : Bool} {lead : List Char} (h : Lead first lead) (name : String)
    (rest : List Char) :
    Codec.nextName first (lead ++ (quote name ++ rest)) = .ok (some name, rest) := by
  have hquote : quote name ++ rest = '"' :: ((quote name).tail ++ rest) := rfl
  rw [hquote, nextName_lead h, readText_quote]
  rfl

/-- **Members of a row fill their slots**, in any order. -/
theorem readMembers_filled {βs : List Type} {fields : Fields βs} (lawful : fields.Lawful)
    (row : Row βs) (ms : List (String × Value)) {first : Bool} {cs : List Char}
    (spells : SpellsMembers first ms cs) (members : ∀ m ∈ ms, m ∈ fields.members row)
    (nodup : (ms.map (·.1)).Nodup) (read : List String) (fresh : ∀ m ∈ ms, m.1 ∉ read)
    (fuel : Nat) (enough : ms.length < fuel) (rest : List Char) :
    fields.readMembers fuel first (fields.filled row read) (cs ++ rest)
      = .ok (fields.filled row ((ms.map (·.1)).reverse ++ read), rest) := by
  induction ms generalizing first cs read fuel with
  | nil =>
      obtain ⟨n, rfl⟩ := Nat.exists_eq_add_one.mpr (Nat.zero_lt_of_lt enough)
      cases spells with
      | close blank =>
          rw [readMembers, List.append_assoc, List.singleton_append, nextName_close first blank]
          rfl
  | cons m ms ih =>
      obtain ⟨n, rfl⟩ := Nat.exists_eq_add_one.mpr (Nat.zero_lt_of_lt enough)
      rw [List.length_cons] at enough
      cases spells with
      | @member _ name v _ lead ws ws' cs rest' before left right value more =>
          rw [List.map_cons, List.nodup_cons] at nodup
          have hmember := readMember_filled lawful (members _ List.mem_cons_self)
            (fresh _ List.mem_cons_self) left right value (more.ends rest)
          have later : ∀ m ∈ ms, m.1 ∉ name :: read := by
            intro m hm hread
            rcases List.mem_cons.mp hread with he | hread
            · exact nodup.1 (List.mem_map.mpr ⟨m, hm, he⟩)
            · exact fresh m (List.mem_cons_of_mem _ hm) hread
          have hmore := ih more (fun m hm => members m (List.mem_cons_of_mem _ hm)) nodup.2
            (name :: read) later n (by omega)
          have hname := nextName_quote before name (ws ++ ':' :: (ws' ++ (cs ++ (rest' ++ rest))))
          rw [readMembers]
          simp only [List.append_assoc, List.cons_append] at hname ⊢
          rw [hname]
          simp only [bind, Except.bind, hmember, hmore, List.map_cons, List.reverse_cons,
            List.append_assoc, List.singleton_append]

/-- **Once all members were read, the row is complete.** -/
theorem complete_filled {βs : List Type} {fields : Fields βs} (lawful : fields.Lawful)
    {row : Row βs} {read : List String} (all : ∀ m ∈ fields.members row, m.1 ∈ read)
    (only : ∀ name ∈ read, name ∈ fields.names → name ∈ (fields.members row).map (·.1)) :
    fields.complete (fields.filled row read) = .ok row := by
  induction fields with
  | nil => rfl
  | cons f rest ih =>
      obtain ⟨a, row⟩ := row
      obtain ⟨hf, unused, rest_lawful⟩ := lawful
      have hrest : rest.complete (rest.filled row read) = .ok row := by
        refine ih rest_lawful (fun m hm => all m (mem_members_cons.mpr (.inr hm))) ?_
        intro name hread hname
        obtain ⟨m, hm, rfl⟩ := List.mem_map.mp (only name hread (List.mem_cons_of_mem _ hname))
        rcases mem_members_cons.mp hm with ⟨-, rfl⟩ | hm
        · exact absurd hname unused
        · exact List.mem_map.mpr ⟨m, hm, rfl⟩
      have hslot : (if f.name ∈ read then some a else none).or f.fallback = some a := by
        cases homitted : f.omitted a with
        | false =>
            have hread := all _ (mem_members_cons.mpr (.inl ⟨homitted, rfl⟩))
            rw [if_pos hread]
            rfl
        | true =>
            -- a field that is not written was not read, and its fallback steps in
            have hread : f.name ∉ read := by
              intro hread
              obtain ⟨m, hm, he⟩ := List.mem_map.mp (only f.name hread List.mem_cons_self)
              rcases mem_members_cons.mp hm with ⟨hwritten, -⟩ | hm
              · rw [homitted] at hwritten
                cases hwritten
              · have hname := name_mem_of_mem_members hm
                rw [he] at hname
                exact unused hname
            rw [if_neg hread, hf.omitted a homitted]
            rfl
      rw [filled, complete]
      simp only [hslot, hrest, bind, Except.bind]
      rfl

end Fields

theorem Codec.record_blanks {α : Type} {βs : List Type} (name : String) (fields : Fields βs)
    (ofRow : Row βs → α) (toRow : α → Row βs) {ws : List Char} (h : Spaces ws) (cs : List Char) :
    (Codec.record name fields ofRow toRow).read (ws ++ cs)
      = (Codec.record name fields ofRow toRow).read cs := by
  unfold Codec.record
  simp only [skipSpaces_append h]

/-- **A record of lawful fields is lawful.** -/
theorem Codec.record_lawful {α : Type} {βs : List Type} {fields : Fields βs}
    (lawful : fields.Lawful) (name : String) {ofRow : Row βs → α} {toRow : α → Row βs}
    (inverse : ∀ a, ofRow (toRow a) = a) :
    (Codec.record name fields ofRow toRow).Lawful where
  blanks := fun _ cs h => Codec.record_blanks name fields ofRow toRow h cs
  reads := by
    intro a cs rest spells _
    cases spells with
    | @record _ ms cs perm members =>
        -- the members are a permutation of those that are written
        have hlen := members.length_lt
        have hread := Fields.readMembers_filled lawful (toRow a) ms members
          (fun m hm => perm.mem_iff.mp hm)
          ((perm.map _).nodup_iff.mpr (Fields.members_nodup lawful (toRow a))) []
          (fun _ _ => List.not_mem_nil) ((cs ++ rest).length + 1)
          (by rw [List.length_append]; omega) rest
        have hcomplete : fields.complete (fields.filled (toRow a) ((ms.map (·.1)).reverse ++ []))
            = .ok (toRow a) := by
          refine Fields.complete_filled lawful ?_ ?_
          · intro m hm
            simp only [List.append_nil, List.mem_reverse]
            exact List.mem_map.mpr ⟨m, perm.mem_iff.mpr hm, rfl⟩
          · intro name hname _
            simp only [List.append_nil, List.mem_reverse] at hname
            exact (perm.map _).mem_iff.mp hname
        rw [Fields.filled_nil] at hread
        unfold Codec.record
        simp only [List.cons_append, skipSpaces_cons (c := Char.ofNat 0x7B) (by decide)]
        rw [if_neg (by decide), if_pos trivial, hread]
        simp only [bind, Except.bind, hcomplete]
        show Except.ok (ofRow (toRow a), rest) = _
        rw [inverse]

end TunnelControl.Json
