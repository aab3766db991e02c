/-
  TunnelControl.Proofs.Json.Members
  ─────────────────────────────────
  **A RECORD MEANS WHAT ITS MEMBERS MEAN, IN ANY ORDER.**

  Reading an object fills one slot after the other and skips what no field
  takes.  On trees this is a fold over the members, and its steps commute; so
  the meaning of a record does not depend on their order.  An array stands for
  the fields by position.

    • `Fields.put`, `Fields.fill`     — members fill slots,
    • `Fields.elements`               — elements fill fields,
    • `readMembers_writes`, `readArray_writes` — objects and arrays are read so,
    • `put_comm`, `fill_perm`         — the order does not matter,
    • `record_uniform`, `meaning_object`, `meaning_array` — what a record means.
-/
import TunnelControl.Proofs.Json.Record
import TunnelControl.Proofs.Json.Sequences

namespace TunnelControl.Json

/-! ## §1. What members and elements fill. -/

/-- Fills a slot with what a tree means.  A slot is filled only once. -/
def Field.put {β : Type} (f : Field β) (t : Tree) : Option β → Option (Option β)
  | some _ => none
  | none => (f.codec.meaning t).map some

theorem Field.put_put {β : Type} (f : Field β) (t t' : Tree) (slot : Option β) :
    (f.put t slot).bind (f.put t') = none := by
  cases slot with
  | some a => rfl
  | none =>
      rw [put]
      cases f.codec.meaning t <;> rfl

namespace Fields

variable {βs : List Type}

/-- Every field has a uniform codec. -/
def Uniform : {βs : List Type} → Fields βs → Prop
  | _, .nil => True
  | _, .cons f rest => f.codec.Uniform ∧ rest.Uniform

/-- Fills the slot of a name with what a tree means.  For a name that no field
has there is nothing to fill. -/
def put : {βs : List Type} → Fields βs → String → Tree → Slots βs → Option (Slots βs)
  | _, .nil, _, _, slots => some slots
  | _, .cons f rest, name, t, (slot, slots) =>
      if f.name = name then (f.put t slot).map fun a => (a, slots)
      else (rest.put name t slots).map fun s => (slot, s)

/-- Fills the slot of a member, if its name is a string. -/
def putMember (fields : Fields βs) (slots : Option (Slots βs)) (m : Quoted × Tree) :
    Option (Slots βs) :=
  slots.bind fun s => m.1.value?.bind fun name => fields.put name m.2 s

/-- Fills the slots of members, one after the other. -/
def fill (fields : Fields βs) (slots : Option (Slots βs)) (ms : List (Quoted × Tree)) :
    Option (Slots βs) :=
  ms.foldl fields.putMember slots

/-- The row of what elements mean, in the declared order.  Missing ones at the
end take their fallbacks, and none may be left over. -/
def elements : {βs : List Type} → Fields βs → List Tree → Option (Row βs)
  | _, .nil, [] => some ()
  | _, .nil, _ :: _ => none
  | _, .cons f rest, [] => f.fallback.bind fun a => (rest.elements []).map fun row => (a, row)
  | _, .cons f rest, t :: ts =>
      (f.codec.meaning t).bind fun a => (rest.elements ts).map fun row => (a, row)

theorem fill_none (fields : Fields βs) (ms : List (Quoted × Tree)) :
    fields.fill none ms = none := by
  induction ms with
  | nil => rfl
  | cons m ms ih => exact ih

theorem put_cons_own {β : Type} (f : Field β) (rest : Fields βs) (t : Tree) (slot : Option β)
    (slots : Slots βs) :
    (Fields.cons f rest).put f.name t (slot, slots) = (f.put t slot).map fun a => (a, slots) := by
  show (if f.name = f.name then _ else _) = _
  rw [if_pos rfl]
  rfl

theorem put_cons_of_ne {β : Type} {f : Field β} {name : String} (h : f.name ≠ name)
    (rest : Fields βs) (t : Tree) (slot : Option β) (slots : Slots βs) :
    (Fields.cons f rest).put name t (slot, slots)
      = (rest.put name t slots).map fun s => (slot, s) := by
  show (if f.name = name then _ else _) = _
  rw [if_neg h]
  rfl

/-- A name that no field has leaves the slots as they are. -/
theorem put_of_not_mem {fields : Fields βs} {name : String} (h : name ∉ fields.names) (t : Tree)
    (slots : Slots βs) : fields.put name t slots = some slots := by
  induction fields with
  | nil => rfl
  | cons f rest ih =>
      obtain ⟨slot, slots⟩ := slots
      rw [names, List.mem_cons, not_or] at h
      rw [put_cons_of_ne (Ne.symm h.1), ih h.2]
      rfl

/-! ## §2. Objects. -/

/-- A member of a name that no field has is not read. -/
theorem readMember_of_not_mem {fields : Fields βs} {name : String} (h : name ∉ fields.names)
    (slots : Slots βs) (cs : List Char) : fields.readMember name slots cs = none := by
  induction fields with
  | nil => rfl
  | cons f rest ih =>
      obtain ⟨slot, slots⟩ := slots
      rw [names, List.mem_cons, not_or] at h
      rw [readMember_cons_of_ne (Ne.symm h.1), ih h.2]
      rfl

/-- **A member fills its slot with what its tree means**, read behind its name
and a colon. -/
theorem readMember_writes {fields : Fields βs} (uniform : fields.Uniform) {name : String}
    (h : name ∈ fields.names) (slots : Slots βs) {t : Tree} {left right u rest : List Char}
    (hleft : Spaces left) (hright : Spaces right) (text : Writes t u) (ends : Ends rest) :
    ∃ r, fields.readMember name slots (left ++ ':' :: (right ++ (u ++ rest))) = some r
      ∧ r.toOption = (fields.put name t slots).map fun s => (s, rest) := by
  induction fields with
  | nil => cases h
  | cons f others ih =>
      obtain ⟨slot, slots⟩ := slots
      by_cases hname : f.name = name
      · subst hname
        rw [put_cons_own]
        cases slot with
        | some a => exact ⟨.error (.duplicateField f.name), if_pos rfl, rfl⟩
        | none =>
            rw [readMember_cons_of_eq, Field.put]
            refine ⟨_, rfl, ?_⟩
            have read := uniform.1.reads text ends
            show (readColon _ >>= fun cs => f.codec.read cs >>= fun r =>
              pure ((some r.1, slots), r.2)).toOption = _
            rw [readColon_append hleft]
            show (f.codec.read (right ++ (u ++ rest)) >>= _).toOption = _
            rw [uniform.1.blanks right _ hright, toOption_bind, read]
            cases f.codec.meaning t <;> rfl
      · have hrest : name ∈ others.names := by
          rw [names, List.mem_cons] at h
          exact h.resolve_left (Ne.symm hname)
        obtain ⟨r, member, read⟩ := ih uniform.2 hrest slots
        rw [readMember_cons_of_ne hname, member, put_cons_of_ne hname]
        refine ⟨_, rfl, (toOption_map _ r).trans ?_⟩
        rw [read]
        cases others.put name t slots <;> rfl

/-- The name of a member is a string, or it is refused. -/
theorem nextName_writes {first : Bool} {lead : List Char} (h : Lead first lead) (k : Quoted)
    (rest : List Char) :
    (Codec.nextName first (lead ++ (k.chars ++ rest))).toOption
      = k.value?.map fun name => (some name, rest) := by
  rw [k.chars_append, nextName_lead h, toOption_map, readText_quoted]
  cases k.value? <;> rfl

/-- **The members of an object fill their slots**, up to its end. -/
theorem readMembers_writes {fields : Fields βs} (uniform : fields.Uniform)
    {ms : List (Quoted × Tree)} {first : Bool} {cs : List Char} (text : WritesMembers first ms cs)
    (slots : Slots βs) (fuel : Nat) (enough : ms.length < fuel) (rest : List Char) :
    (fields.readMembers fuel first slots (cs ++ rest)).toOption
      = (fields.fill (some slots) ms).map fun s => (s, rest) := by
  induction ms generalizing first cs slots fuel with
  | nil =>
      obtain ⟨n, rfl⟩ := Nat.exists_eq_add_one.mpr (Nat.zero_lt_of_lt enough)
      cases text with
      | close blank =>
          rw [readMembers, List.append_assoc, List.singleton_append, nextName_close first blank]
          rfl
  | cons m ms ih =>
      obtain ⟨n, rfl⟩ := Nat.exists_eq_add_one.mpr (Nat.zero_lt_of_lt enough)
      rw [List.length_cons] at enough
      cases text with
      | @member _ k t _ lead left right u us before hleft hright value more =>
          have hname := nextName_writes before k (left ++ ':' :: (right ++ (u ++ (us ++ rest))))
          have hmore : ∀ slots, _ := fun slots => ih more slots n (by omega)
          rw [readMembers]
          simp only [List.append_assoc, List.cons_append] at hname ⊢
          rw [toOption_bind, hname]
          show _ = (fields.fill (k.value?.bind fun name => fields.put name t slots) ms).map _
          cases k.value? with
          | none =>
              rw [Option.bind_none, fill_none]
              rfl
          | some name =>
              rw [Option.map_some, Option.bind_some, Option.bind_some]
              dsimp only
              by_cases known : name ∈ fields.names
              · obtain ⟨r, member, read⟩ := readMember_writes uniform known slots hleft hright value
                  (more.ends rest)
                rw [member]
                show (r >>= fun r => fields.readMembers n false r.1 r.2).toOption = _
                rw [toOption_bind, read]
                cases fields.put name t slots with
                | none =>
                    rw [fill_none]
                    rfl
                | some s => exact hmore s
              · -- a member that no field takes is skipped
                rw [readMember_of_not_mem known, put_of_not_mem known]
                show (readColon _ >>= fun cs => skipValue cs >>= fun cs =>
                  fields.readMembers n false slots cs).toOption = _
                rw [readColon_append hleft]
                show (skipValue _ >>= _).toOption = _
                rw [skipValue_writes value hright (more.ends rest)]
                exact hmore slots

/-- The next name stands behind blanks and a comma; otherwise the object ends. -/
theorem nextName_eq_ok {first : Bool} {name : Option String} {cs rest : List Char}
    (h : Codec.nextName first cs = .ok (name, rest)) :
    (name = none ∧ ∃ ws, Spaces ws ∧ cs = ws ++ Char.ofNat 0x7D :: rest)
      ∨ ∃ lead, ∃ k : Quoted, Lead first lead ∧ cs = lead ++ (k.chars ++ rest)
          ∧ name.isSome = true := by
  -- what is named is a string
  have string : ∀ {c cs}, Codec.nextName.named c cs = .ok (name, rest) →
      name.isSome = true ∧ ∃ k : Quoted, c :: cs = k.chars ++ rest := by
    intro c cs named
    unfold Codec.nextName.named at named
    split at named
    next hc =>
      obtain ⟨⟨v, rest'⟩, text, he⟩ := map_eq_ok_iff.mp named
      injection he with hn hr
      subst hn hr hc
      obtain ⟨k, rfl⟩ := exists_quoted_of_readText text
      exact ⟨rfl, k, by rw [k.chars_append]⟩
    next => cases named
  unfold Codec.nextName at h
  split at h
  next => cases h
  next c cs' next =>
    obtain ⟨ws, blank, rfl⟩ := exists_spaces_of_cons next
    split at h
    next hc =>
      injection h with h
      injection h with hn hr
      subst hn hr hc
      exact .inl ⟨rfl, ws, blank, rfl⟩
    next =>
      split at h
      next hf =>
        obtain ⟨some, k, hk⟩ := string h
        subst hf
        exact .inr ⟨ws, k, .first blank, by rw [hk], some⟩
      next hf =>
        rw [Bool.not_eq_true] at hf
        split at h
        next hc =>
          split at h
          next => cases h
          next d cs'' next' =>
            obtain ⟨ws', blank', rfl⟩ := exists_spaces_of_cons next'
            obtain ⟨some, k, hk⟩ := string h
            subst hf hc
            exact .inr ⟨_, k, .next blank blank', by rw [hk]; simp, some⟩
        next => cases h

/-- What was read as a member is the text of a tree behind a colon. -/
theorem exists_writes_of_readMember {fields : Fields βs} (uniform : fields.Uniform) {name : String}
    {slots slots' : Slots βs} {cs rest : List Char}
    (h : fields.readMember name slots cs = some (.ok (slots', rest))) :
    ∃ (left right : List Char) (t : Tree) (u : List Char), Spaces left ∧ Spaces right ∧ Writes t u
      ∧ cs = left ++ ':' :: (right ++ (u ++ rest)) := by
  induction fields with
  | nil => cases h
  | cons f others ih =>
      obtain ⟨slot, slots⟩ := slots
      by_cases hname : f.name = name
      · subst hname
        cases slot with
        | some a =>
            have taken : (Fields.cons f others).readMember f.name (some a, slots) cs
                = some (.error (.duplicateField f.name)) := if_pos rfl
            rw [taken] at h
            cases h
        | none =>
            rw [readMember_cons_of_eq] at h
            replace h := bind_eq_ok_iff.mp (Option.some.inj h)
            obtain ⟨cs', colon, h⟩ := h
            replace h := bind_eq_ok_iff.mp h
            obtain ⟨⟨a, rest'⟩, value, h⟩ := h
            injection h with h
            injection h with _ hr
            subst hr
            obtain ⟨left, hleft, rfl⟩ := exists_spaces_of_readColon colon
            obtain ⟨right, t, u, hright, text, rfl⟩ := uniform.1.parses _ _ _ value
            exact ⟨left, right, t, u, hleft, hright, text, rfl⟩
      · rw [readMember_cons_of_ne hname] at h
        obtain ⟨r, member, mapped⟩ := Option.map_eq_some_iff.mp h
        obtain ⟨⟨s, rest'⟩, rfl, he⟩ := map_eq_ok_iff.mp mapped
        injection he with _ hr
        subst hr
        exact ih uniform.2 member

/-- What was read as members are the texts of trees. -/
theorem exists_writes_of_readMembers {fields : Fields βs} (uniform : fields.Uniform) {fuel : Nat}
    {first : Bool} {slots slots' : Slots βs} {cs rest : List Char}
    (h : fields.readMembers fuel first slots cs = .ok (slots', rest)) :
    ∃ ms us, WritesMembers first ms us ∧ cs = us ++ rest := by
  induction fuel generalizing first slots cs with
  | zero => cases h
  | succ n ih =>
      rw [readMembers] at h
      replace h := bind_eq_ok_iff.mp h
      obtain ⟨⟨name, cs'⟩, next, h⟩ := h
      rcases nextName_eq_ok next with ⟨rfl, ws, blank, rfl⟩ | ⟨lead, k, before, rfl, some⟩
      · injection h with h
        injection h with _ hr
        subst hr
        exact ⟨[], _, .close blank, by simp⟩
      · obtain ⟨name, rfl⟩ := Option.isSome_iff_exists.mp some
        -- the value was read or skipped, and the members after it were read
        obtain ⟨left, right, t, u, rest', slots'', hleft, hright, value, rfl, others⟩ :
            ∃ (left right : List Char) (t : Tree) (u rest' : List Char) (slots'' : Slots βs),
              Spaces left ∧ Spaces right ∧ Writes t u
              ∧ cs' = left ++ ':' :: (right ++ (u ++ rest'))
              ∧ fields.readMembers n false slots'' rest' = .ok (slots', rest) := by
          dsimp only at h
          split at h
          next r member =>
            replace h := bind_eq_ok_iff.mp h
            obtain ⟨⟨slots'', rest'⟩, rfl, h⟩ := h
            obtain ⟨left, right, t, u, hleft, hright, value, split⟩ :=
              exists_writes_of_readMember uniform member
            exact ⟨left, right, t, u, rest', slots'', hleft, hright, value, split, h⟩
          next =>
            replace h := bind_eq_ok_iff.mp h
            obtain ⟨cs'', colon, h⟩ := h
            replace h := bind_eq_ok_iff.mp h
            obtain ⟨rest', skipped, h⟩ := h
            obtain ⟨left, hleft, rfl⟩ := exists_spaces_of_readColon colon
            obtain ⟨right, t, u, hright, value, rfl⟩ := exists_writes_of_skipValue skipped
            exact ⟨left, right, t, u, rest', slots, hleft, hright, value, rfl, h⟩
        obtain ⟨ms, us, more, rfl⟩ := ih others
        exact ⟨_, _, .member (k := k) before hleft hright value more, by simp⟩

/-! ## §3. Arrays. -/

/-- Reads the fields as elements up to the end of the array. -/
def readArray (expected : String) (fields : Fields βs) (index : Nat) (first : Bool)
    (cs : List Char) : Except ReadError (Row βs × List Char) :=
  fields.readElements expected index first cs >>= fun r =>
    Codec.closeSequence r.2 >>= fun cs => pure (r.1, cs)

/-- Where the array goes on, the next field is read from it. -/
theorem readArray_more {β : Type} (expected : String) {f : Field β} {others : Fields βs}
    (index : Nat) {first : Bool} {cs rest : List Char}
    (next : Codec.nextElement first cs = .ok (true, rest)) :
    ((Fields.cons f others).readArray expected index first cs).toOption
      = (f.codec.read rest).toOption.bind fun a =>
          (others.readArray expected (index + 1) false a.2).toOption.map fun r =>
            ((a.1, r.1), r.2) := by
  rw [readArray, readElements, next]
  show ((f.codec.read rest >>= fun a => others.readElements expected (index + 1) false a.2 >>=
    fun r => pure ((a.1, r.1), r.2)) >>= _ : Except ReadError _).toOption = _
  cases f.codec.read rest with
  | error => rfl
  | ok a =>
      show ((others.readElements expected (index + 1) false a.2 >>= _) >>= _ :
        Except ReadError _).toOption
        = (others.readElements expected (index + 1) false a.2 >>= _).toOption.map _
      cases others.readElements expected (index + 1) false a.2 with
      | error => rfl
      | ok r =>
          show (Codec.closeSequence r.2 >>= _ : Except ReadError _).toOption
            = (Codec.closeSequence r.2 >>= _).toOption.map _
          cases Codec.closeSequence r.2 <;> rfl

/-- At the end of the array, the next field takes its fallback. -/
theorem readArray_end {β : Type} (expected : String) {f : Field β} {others : Fields βs}
    (index : Nat) {first : Bool} {cs rest : List Char}
    (next : Codec.nextElement first cs = .ok (false, rest)) :
    ((Fields.cons f others).readArray expected index first cs).toOption
      = f.fallback.bind fun a =>
          (others.readArray expected (index + 1) first rest).toOption.map fun r =>
            ((a, r.1), r.2) := by
  rw [readArray, readElements, next]
  simp only [bind, Except.bind, Bool.false_eq_true, if_false]
  cases f.fallback with
  | none => rfl
  | some a =>
      unfold readArray
      simp only [bind, Except.bind]
      cases others.readElements expected (index + 1) first rest with
      | error => rfl
      | ok r =>
          simp only [pure, Except.pure]
          cases Codec.closeSequence r.2 <;> rfl

/-- **The elements of an array fill the fields in their order.** -/
theorem readArray_writes (expected : String) {fields : Fields βs} (uniform : fields.Uniform)
    {ts : List Tree} {first : Bool} {cs : List Char} (text : WritesItems first ts cs) (index : Nat)
    (rest : List Char) :
    (fields.readArray expected index first (cs ++ rest)).toOption
      = (fields.elements ts).map fun row => (row, rest) := by
  induction fields generalizing ts first cs index with
  | nil =>
      show (Codec.closeSequence (cs ++ rest) >>= fun cs => pure ((), cs)).toOption = _
      cases text with
      | close blank =>
          rw [List.append_assoc, List.singleton_append, Codec.closeSequence_blanks blank,
            Codec.closeSequence_close]
          rfl
      | item before element =>
          obtain ⟨c, cs', rfl, head⟩ := element.head
          simp only [List.append_assoc, List.cons_append]
          rw [toOption_bind, Codec.closeSequence_item before head]
          rfl
  | cons f others ih =>
      cases text with
      | close blank =>
          -- the others are missing, too
          have missing : (others.readArray expected (index + 1) first (']' :: rest)).toOption
              = (others.elements []).map fun row => (row, rest) :=
            ih uniform.2 (@WritesItems.close first [] spaces_nil) (index + 1)
          rw [List.append_assoc, List.singleton_append,
            readArray_end expected index (Codec.nextElement_close first blank rest), missing]
          show _ = (f.fallback.bind fun a => (others.elements []).map fun row => (a, row)).map _
          cases f.fallback <;> cases others.elements [] <;> rfl
      | @item _ t ts lead u us before element more =>
          have read := uniform.1.reads element (more.ends rest)
          have further := ih uniform.2 more (index + 1)
          obtain ⟨c, u', rfl, head⟩ := element.head
          have next := Codec.nextElement_item before head.ne.1 head.ne.2.1 (u' ++ (us ++ rest))
          simp only [List.append_assoc, List.cons_append] at read ⊢
          rw [readArray_more expected index next, read]
          show _ = ((f.codec.meaning t).bind fun a => (others.elements ts).map fun row =>
            (a, row)).map _
          cases f.codec.meaning t with
          | none => rfl
          | some a =>
              rw [Option.map_some, Option.bind_some, Option.bind_some, further]
              cases others.elements ts <;> rfl

/-- What was read as an array of fields are the texts of trees. -/
theorem exists_writes_of_readArray {expected : String} {fields : Fields βs}
    (uniform : fields.Uniform) {index : Nat} {first : Bool} {cs rest : List Char} {row : Row βs}
    (h : fields.readArray expected index first cs = .ok (row, rest)) :
    ∃ ts us, WritesItems first ts us ∧ cs = us ++ rest := by
  induction fields generalizing index first cs rest with
  | nil =>
      obtain ⟨rest', close, he⟩ := bind_eq_ok_iff.mp
        (show (Codec.closeSequence cs >>= fun cs => pure ((), cs)) = .ok (row, rest) from h)
      injection he with he
      injection he with _ hr
      subst hr
      obtain ⟨ws, blank, rfl⟩ := Codec.closeSequence_eq_ok close
      exact ⟨[], _, .close blank, by simp⟩
  | cons f others ih =>
      obtain ⟨⟨row', rest'⟩, elements, -⟩ := bind_eq_ok_iff.mp h
      obtain ⟨⟨more, cs'⟩, next, -⟩ := bind_eq_ok_iff.mp elements
      replace h := toOption_eq_some_iff.mpr h
      rcases Codec.nextElement_eq_ok next with
        ⟨rfl, lead, before, rfl⟩ | ⟨rfl, ws, r, blank, rfl, rfl⟩
      · rw [readArray_more expected index next] at h
        obtain ⟨⟨a, cs''⟩, value, h⟩ := Option.bind_eq_some_iff.mp h
        obtain ⟨⟨row'', rest''⟩, array, he⟩ := Option.map_eq_some_iff.mp h
        injection he with _ hr
        subst hr
        obtain ⟨ws, t, u, blank, text, rfl⟩ :=
          uniform.1.parses _ _ _ (toOption_eq_some_iff.mp value)
        obtain ⟨ts, us, texts, rfl⟩ := ih uniform.2 (toOption_eq_some_iff.mp array)
        exact ⟨t :: ts, _, .item (before.append blank) text texts, by simp⟩
      · -- the array has ended, and the fields that are left take their fallbacks
        rw [readArray_end expected index next] at h
        obtain ⟨a, -, h⟩ := Option.bind_eq_some_iff.mp h
        obtain ⟨⟨row'', rest''⟩, array, he⟩ := Option.map_eq_some_iff.mp h
        injection he with _ hr
        subst hr
        obtain ⟨ts, us, texts, split⟩ := ih uniform.2 (toOption_eq_some_iff.mp array)
        exact ⟨ts, ws ++ us, texts.prepend blank, by rw [split, List.append_assoc]⟩

/-! ## §4. The order of members. -/

/-- The slot of a field and those of the others are filled independently. -/
theorem put_own_comm {β : Type} (f : Field β) {name : String} (h : f.name ≠ name)
    (others : Fields βs) (t t' : Tree) (slots : Slots (β :: βs)) :
    ((Fields.cons f others).put f.name t slots).bind ((Fields.cons f others).put name t')
      = ((Fields.cons f others).put name t' slots).bind ((Fields.cons f others).put f.name t) := by
  obtain ⟨slot, slots⟩ := slots
  rw [put_cons_own, put_cons_of_ne h]
  cases own : f.put t slot with
  | none =>
      cases others.put name t' slots with
      | none => rfl
      | some s =>
          show none = (Fields.cons f others).put f.name t (slot, s)
          rw [put_cons_own, own]
          rfl
  | some a =>
      show (Fields.cons f others).put name t' (a, slots) = _
      rw [put_cons_of_ne h]
      cases others.put name t' slots with
      | none => rfl
      | some s =>
          show _ = (Fields.cons f others).put f.name t (slot, s)
          rw [put_cons_own, own]
          rfl

/-- The slot of a field is not filled twice. -/
theorem put_own_twice {β : Type} (f : Field β) (others : Fields βs) (t t' : Tree)
    (slots : Slots (β :: βs)) :
    ((Fields.cons f others).put f.name t slots).bind ((Fields.cons f others).put f.name t')
      = none := by
  obtain ⟨slot, slots⟩ := slots
  have own := f.put_put t t' slot
  rw [put_cons_own]
  cases first : f.put t slot with
  | none => rfl
  | some a =>
      rw [first] at own
      show (Fields.cons f others).put f.name t' (a, slots) = none
      rw [put_cons_own, show f.put t' a = none from own]
      rfl

/-- Two members that are not the first field's leave its slot as it is. -/
theorem put_put_of_ne {β : Type} {f : Field β} {name name' : String} (h : f.name ≠ name)
    (h' : f.name ≠ name') (others : Fields βs) (t t' : Tree) (slot : Option β) (slots : Slots βs) :
    ((Fields.cons f others).put name t (slot, slots)).bind ((Fields.cons f others).put name' t')
      = ((others.put name t slots).bind (others.put name' t')).map fun s => (slot, s) := by
  rw [put_cons_of_ne h]
  cases others.put name t slots with
  | none => rfl
  | some s => exact put_cons_of_ne h' others t' slot s

/-- **Two members fill the same slots in either order**, or none. -/
theorem put_comm (fields : Fields βs) (name name' : String) (t t' : Tree) (slots : Slots βs) :
    (fields.put name t slots).bind (fields.put name' t')
      = (fields.put name' t' slots).bind (fields.put name t) := by
  induction fields with
  | nil => rfl
  | cons f others ih =>
      by_cases h : f.name = name
      · subst h
        by_cases h' : f.name = name'
        · subst h'
          rw [put_own_twice, put_own_twice]
        · exact put_own_comm f h' others t t' slots
      · by_cases h' : f.name = name'
        · subst h'
          exact (put_own_comm f h others t' t slots).symm
        · -- two later fields, or names that no field has
          obtain ⟨slot, slots⟩ := slots
          rw [put_put_of_ne h h', put_put_of_ne h' h, ih slots]

theorem putMember_comm (fields : Fields βs) (slots : Option (Slots βs)) (m m' : Quoted × Tree) :
    fields.putMember (fields.putMember slots m) m'
      = fields.putMember (fields.putMember slots m') m := by
  cases slots with
  | none => rfl
  | some s =>
      unfold putMember
      cases m.1.value? with
      | none => cases m'.1.value? <;> simp
      | some name =>
          cases m'.1.value? with
          | none => simp
          | some name' => exact fields.put_comm name name' m.2 m'.2 s

/-- **Members fill the same slots in every order.** -/
theorem fill_perm (fields : Fields βs) (slots : Option (Slots βs)) {ms ms' : List (Quoted × Tree)}
    (h : ms.Perm ms') : fields.fill slots ms = fields.fill slots ms' :=
  h.foldl_eq' (fun m _ m' _ s => fields.putMember_comm s m m') slots

end Fields

/-! ## §5. What a record means. -/

namespace Fields

/-- The row of what members mean, in any order.  Missing ones take their
fallbacks. -/
def object (fields : Fields βs) (ms : List (Quoted × Tree)) : Option (Row βs) :=
  (fields.fill (some fields.vacant) ms).bind fun slots => (fields.complete slots).toOption

end Fields

namespace Codec

variable {α : Type} {βs : List Type}

/-- The first character tells an array from an object. -/
theorem record_read (name : String) (fields : Fields βs) (ofRow : Row βs → α) (toRow : α → Row βs)
    {c : Char} {cs rest : List Char} (next : skipSpaces cs = c :: rest) :
    (record name fields ofRow toRow).read cs
      = if c = '[' then
          (fields.readArray (expectedLength name fields.count) 0 true rest).map fun r =>
            (ofRow r.1, r.2)
        else if c = Char.ofNat 0x7B then
          fields.readMembers (rest.length + 1) true fields.vacant rest >>= fun r =>
            (fields.complete r.1).map fun row => (ofRow row, r.2)
        else mismatch ("struct " ++ name) c rest := by
  unfold record
  dsimp only
  rw [next]
  dsimp only
  congr 1
  show (fields.readElements _ 0 true rest >>= _)
    = Except.map _ (fields.readElements _ 0 true rest >>= _)
  cases fields.readElements (expectedLength name fields.count) 0 true rest with
  | error => rfl
  | ok r =>
      show (closeSequence r.2 >>= _) = Except.map _ (closeSequence r.2 >>= _)
      cases closeSequence r.2 <;> rfl

/-- Only an array or an object is read as a record. -/
theorem record_refused (name : String) (fields : Fields βs) (ofRow : Row βs → α)
    (toRow : α → Row βs) {t : Tree} (array : ∀ ts, t ≠ .sequence ts) (object : ∀ ms, t ≠ .record ms)
    (c : Char) (cs : List Char) (head : Head t c) :
    ((record name fields ofRow toRow).read (c :: cs)).toOption = none := by
  rw [record_read name fields ofRow toRow (skipSpaces_cons head.ne.1 cs),
    if_neg (head.ne_bracket array), if_neg (head.ne_brace object)]
  exact mismatch_toOption _ _ _

theorem record_reads_array (name : String) {fields : Fields βs} (uniform : fields.Uniform)
    (ofRow : Row βs → α) (toRow : α → Row βs) {ts : List Tree} {u : List Char} (rest : List Char)
    (text : Writes (.sequence ts) u) :
    ((record name fields ofRow toRow).read (u ++ rest)).toOption
      = ((fields.elements ts).map ofRow).map fun a => (a, rest) := by
  cases text with
  | sequence items =>
      rw [List.cons_append, record_read name fields ofRow toRow (skipSpaces_cons (by decide) _),
        if_pos rfl, toOption_map, Fields.readArray_writes _ uniform items 0 rest]
      cases fields.elements ts <;> rfl

theorem record_reads_object (name : String) {fields : Fields βs} (uniform : fields.Uniform)
    (ofRow : Row βs → α) (toRow : α → Row βs) {ms : List (Quoted × Tree)} {u : List Char}
    (rest : List Char) (text : Writes (.record ms) u) :
    ((record name fields ofRow toRow).read (u ++ rest)).toOption
      = ((fields.object ms).map ofRow).map fun a => (a, rest) := by
  cases text with
  | @record _ cs members =>
      have hlen := members.length_lt
      have hread := Fields.readMembers_writes uniform members fields.vacant
        ((cs ++ rest).length + 1) (by rw [List.length_append]; omega) rest
      rw [List.cons_append, record_read name fields ofRow toRow (skipSpaces_cons (by decide) _),
        if_neg (by decide), if_pos rfl, toOption_bind, hread, Fields.object]
      cases fields.fill (some fields.vacant) ms with
      | none => rfl
      | some slots =>
          rw [Option.map_some, Option.bind_some, Option.bind_some, toOption_map]
          cases (fields.complete slots).toOption <;> rfl

theorem record_uniform (name : String) {fields : Fields βs} (uniform : fields.Uniform)
    (ofRow : Row βs → α) (toRow : α → Row βs) : (record name fields ofRow toRow).Uniform where
  blanks := fun _ cs h => record_blanks name fields ofRow toRow h cs
  settled := by
    intro t
    cases t with
    | sequence ts =>
        exact ⟨_, fun u rest text _ => record_reads_array name uniform ofRow toRow rest text⟩
    | record ms =>
        exact ⟨_, fun u rest text _ => record_reads_object name uniform ofRow toRow rest text⟩
    | word w =>
        exact settled_of_refused (record_refused name fields ofRow toRow (by simp) (by simp))
    | text s =>
        exact settled_of_refused (record_refused name fields ofRow toRow (by simp) (by simp))
  parses := by
    intro cs a rest read
    cases next : skipSpaces cs with
    | nil =>
        unfold record at read
        dsimp only at read
        rw [next] at read
        cases read
    | cons c cs' =>
        obtain ⟨ws, blank, rfl⟩ := exists_spaces_of_cons next
        rw [record_read name fields ofRow toRow next] at read
        split at read
        next hc =>
          obtain ⟨⟨row, rest'⟩, array, he⟩ := map_eq_ok_iff.mp read
          injection he with _ hr
          subst hr hc
          obtain ⟨ts, us, texts, rfl⟩ := Fields.exists_writes_of_readArray uniform array
          exact ⟨ws, .sequence ts, _, blank, .sequence texts, rfl⟩
        next =>
          split at read
          next hc =>
            obtain ⟨⟨slots, rest'⟩, object, read⟩ := bind_eq_ok_iff.mp read
            obtain ⟨row, -, he⟩ := map_eq_ok_iff.mp read
            injection he with _ hr
            subst hr hc
            obtain ⟨ms, us, texts, rfl⟩ := Fields.exists_writes_of_readMembers uniform object
            exact ⟨ws, .record ms, _, blank, .record texts, rfl⟩
          next => exact absurd read mismatch_ne_ok

/-- **An array means a row of what its elements mean.** -/
theorem meaning_array (name : String) {fields : Fields βs} (uniform : fields.Uniform)
    (ofRow : Row βs → α) (toRow : α → Row βs) (ts : List Tree) :
    (record name fields ofRow toRow).meaning (.sequence ts) = (fields.elements ts).map ofRow :=
  meaning_eq fun _ rest text _ => record_reads_array name uniform ofRow toRow rest text

/-- **An object means a row of what its members mean.** -/
theorem meaning_object (name : String) {fields : Fields βs} (uniform : fields.Uniform)
    (ofRow : Row βs → α) (toRow : α → Row βs) (ms : List (Quoted × Tree)) :
    (record name fields ofRow toRow).meaning (.record ms) = (fields.object ms).map ofRow :=
  meaning_eq fun _ rest text _ => record_reads_object name uniform ofRow toRow rest text

end Codec

end TunnelControl.Json
