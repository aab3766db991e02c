/-
  TunnelControl.Proofs.Json.Change
  ────────────────────────────────
  **WRITERS OF OTHER VERSIONS.**

  A writer of another version puts members in another order, adds some that
  this reader does not know, or leaves out some that it does.  A change is one
  such step, at any record of a text, together with what it does to the value
  that is read; a codec follows a change if just this becomes of the value.

    • `Change`, `Change.items`, `Change.record`, `Change.Steps`,
    • `Codec.Follows`, `list_follows`, `record_follows`, `Follows.steps`,
    • `Change.Silent`       — changes that leave the value as it is,
    • `ReadsAcrossVersions` — what this says of whole texts.
-/
import TunnelControl.Proofs.Json.Members

namespace TunnelControl.Json

/-! ## §1. Changes. -/

/-- A change leads from one tree to another and does something to the value
that is read. -/
abbrev Change (α : Type) : Type := Tree → Tree → (α → α) → Prop

/-- Nothing changes. -/
def Change.never {α : Type} : Change α := fun _ _ _ => False

/-- One change for the values of each field. -/
inductive Changes : List Type → Type 1 where
  /-- No field. -/
  | nil : Changes []
  /-- A field before others. -/
  | cons {β : Type} {βs : List Type} (change : Change β) (rest : Changes βs) : Changes (β :: βs)

/-- A change of the value at a place in a row. -/
def Changes.At : {βs : List Type} → Changes βs → Nat → Tree → Tree → (Row βs → Row βs) → Prop
  | _, .nil, _, _, _, _ => False
  | _, .cons change _, 0, t, t', g => ∃ f, change t t' f ∧ g = fun row => (f row.1, row.2)
  | _, .cons _ rest, i + 1, t, t', g => ∃ h, rest.At i t t' h ∧ g = fun row => (row.1, h row.2)

namespace Fields

variable {βs : List Type}

/-- The place of the field of a name. -/
def place? (fields : Fields βs) (name : String) : Option Nat := fields.names.idxOf? name

/-- Puts the fallback at a place of a row, if there is one. -/
def reset : {βs : List Type} → Fields βs → Nat → Option (Row βs → Row βs)
  | _, .nil, _ => none
  | _, .cons f _, 0 => f.fallback.map fun a row => (a, row.2)
  | _, .cons _ rest, i + 1 => (rest.reset i).map fun g row => (row.1, g row.2)

/-- A member of a name that no field has. -/
def Unknown (fields : Fields βs) (m : Quoted × Tree) : Prop :=
  ∃ name, m.1.value? = some name ∧ name ∉ fields.names

/-- Nothing changes in the values of the fields. -/
def still : {βs : List Type} → Fields βs → Changes βs
  | _, .nil => .nil
  | _, .cons _ rest => .cons .never rest.still

end Fields

namespace Change

variable {α : Type} {βs : List Type}

/-- A change of one element of an array. -/
inductive items (change : Change α) : Change (List α) where
  /-- The element behind some others. -/
  | element {before after : List Tree} {t t' : Tree} {f : α → α} (inside : change t t' f) :
      items change (.sequence (before ++ t :: after)) (.sequence (before ++ t' :: after))
        fun as => as.modify before.length f

/-- A change of a record.  The flag allows to leave out members that have a
fallback. -/
inductive record (losing : Bool) (fields : Fields βs) (inner : Changes βs) (ofRow : Row βs → α)
    (toRow : α → Row βs) : Change α where
  /-- The members stand in another order. -/
  | reorder {ms ms' : List (Quoted × Tree)} (order : ms.Perm ms') :
      record losing fields inner ofRow toRow (.record ms) (.record ms') id
  /-- A member of an unknown name, with any value, stands anywhere. -/
  | insert {before after : List (Quoted × Tree)} {m : Quoted × Tree} (unknown : fields.Unknown m) :
      record losing fields inner ofRow toRow (.record (before ++ after))
        (.record (before ++ m :: after)) id
  /-- The value of a member of an unknown name is another. -/
  | replace {before after : List (Quoted × Tree)} {k : Quoted} {t t' : Tree}
      (unknown : fields.Unknown (k, t)) :
      record losing fields inner ofRow toRow (.record (before ++ (k, t) :: after))
        (.record (before ++ (k, t') :: after)) id
  /-- A member that has a fallback is left out. -/
  | lose {before after : List (Quoted × Tree)} {k : Quoted} {t : Tree} {name : String} {i : Nat}
      {g : Row βs → Row βs} (allowed : losing = true) (named : k.value? = some name)
      (place : fields.place? name = some i) (reset : fields.reset i = some g) :
      record losing fields inner ofRow toRow (.record (before ++ (k, t) :: after))
        (.record (before ++ after)) fun a => ofRow (g (toRow a))
  /-- Something changes in the value of a member. -/
  | member {before after : List (Quoted × Tree)} {k : Quoted} {t t' : Tree} {name : String}
      {i : Nat} {g : Row βs → Row βs} (named : k.value? = some name)
      (place : fields.place? name = some i) (inside : inner.At i t t' g) :
      record losing fields inner ofRow toRow (.record (before ++ (k, t) :: after))
        (.record (before ++ (k, t') :: after)) fun a => ofRow (g (toRow a))
  /-- Something changes in an element, in a record that is written as an array. -/
  | element {before after : List Tree} {t t' : Tree} {g : Row βs → Row βs}
      (inside : inner.At before.length t t' g) :
      record losing fields inner ofRow toRow (.sequence (before ++ t :: after))
        (.sequence (before ++ t' :: after)) fun a => ofRow (g (toRow a))

/-- Changes one after the other. -/
inductive Steps (change : Change α) : Change α where
  /-- No change. -/
  | refl (t : Tree) : Steps change t t id
  /-- A change and others after it. -/
  | step {t t' t'' : Tree} {f g : α → α} (first : change t t' f) (others : Steps change t' t'' g) :
      Steps change t t'' fun a => g (f a)

end Change

/-! ## §2. What becomes of the row. -/

namespace Fields

variable {βs : List Type}

theorem place?_cons {β : Type} (f : Field β) (rest : Fields βs) (name : String) :
    (Fields.cons f rest).place? name
      = if f.name = name then some 0 else (rest.place? name).map (· + 1) := by
  unfold place?
  rw [names, List.idxOf?_cons]
  simp only [beq_iff_eq]

theorem complete_cons {β : Type} (f : Field β) (rest : Fields βs) (slot : Option β)
    (slots : Slots βs) :
    ((Fields.cons f rest).complete (slot, slots)).toOption
      = (slot.or f.fallback).bind fun a =>
          (rest.complete slots).toOption.map fun row => (a, row) := by
  rw [complete]
  cases slot.or f.fallback with
  | none => rfl
  | some a =>
      show (rest.complete slots >>= fun row => pure (a, row) : Except ReadError _).toOption = _
      cases rest.complete slots <;> rfl

/-- The first field of a name takes it, or a later one does. -/
theorem place?_cons_eq_some {β : Type} {f : Field β} {rest : Fields βs} {name : String} {i : Nat}
    (h : (Fields.cons f rest).place? name = some i) :
    (f.name = name ∧ i = 0) ∨ (f.name ≠ name ∧ ∃ j, rest.place? name = some j ∧ i = j + 1) := by
  rw [place?_cons] at h
  split at h
  next hname =>
    injection h with h
    exact .inl ⟨hname, h.symm⟩
  next hname =>
    obtain ⟨j, place, rfl⟩ := Option.map_eq_some_iff.mp h
    exact .inr ⟨hname, j, place, rfl⟩

/-- What fills the slot of a field is found in the row. -/
theorem put_own_eq_some {β : Type} {f : Field β} {rest : Fields βs} {t : Tree}
    {slots s : Slots (β :: βs)} (h : (Fields.cons f rest).put f.name t slots = some s)
    {row : Row (β :: βs)} (completed : ((Fields.cons f rest).complete s).toOption = some row) :
    ∃ a others, ∃ tail : Row βs, slots = (none, others) ∧ f.codec.meaning t = some a
      ∧ (rest.complete others).toOption = some tail ∧ row = (a, tail) := by
  obtain ⟨slot, others⟩ := slots
  rw [put_cons_own] at h
  obtain ⟨slot', own, rfl⟩ := Option.map_eq_some_iff.mp h
  cases slot with
  | some a => cases own
  | none =>
      obtain ⟨a, value, rfl⟩ := Option.map_eq_some_iff.mp own
      rw [complete_cons, Option.some_or, Option.bind_some] at completed
      obtain ⟨tail, done, rfl⟩ := Option.map_eq_some_iff.mp completed
      exact ⟨a, others, tail, rfl, value, done, rfl⟩

/-- What fills a slot of another field leaves the first one as it is. -/
theorem put_other_eq_some {β : Type} {f : Field β} {rest : Fields βs} {name : String}
    (other : f.name ≠ name) {t : Tree} {slot : Option β} {slots : Slots βs} {s : Slots (β :: βs)}
    (h : (Fields.cons f rest).put name t (slot, slots) = some s) {row : Row (β :: βs)}
    (completed : ((Fields.cons f rest).complete s).toOption = some row) :
    ∃ s', ∃ tail : Row βs, rest.put name t slots = some s' ∧ (rest.complete s').toOption = some tail
      ∧ slot.or f.fallback = some row.1 ∧ row = (row.1, tail) := by
  rw [put_cons_of_ne other] at h
  obtain ⟨s', later, rfl⟩ := Option.map_eq_some_iff.mp h
  rw [complete_cons] at completed
  obtain ⟨a, filled, completed⟩ := Option.bind_eq_some_iff.mp completed
  obtain ⟨tail, done, rfl⟩ := Option.map_eq_some_iff.mp completed
  exact ⟨s', tail, later, done, filled, rfl⟩

/-- **Without a member, the row has the fallback at its place.** -/
theorem complete_reset {fields : Fields βs} {name : String} {i : Nat} {g : Row βs → Row βs}
    (place : fields.place? name = some i) (reset : fields.reset i = some g) {t : Tree}
    {slots s : Slots βs} (put : fields.put name t slots = some s) {row : Row βs}
    (completed : (fields.complete s).toOption = some row) :
    (fields.complete slots).toOption = some (g row) := by
  induction fields generalizing i with
  | nil => cases place
  | cons f rest ih =>
      rcases place?_cons_eq_some place with ⟨rfl, rfl⟩ | ⟨other, j, later, rfl⟩
      · -- the slot of the first field stays empty, and its fallback steps in
        obtain ⟨a, others, tail, rfl, -, done, rfl⟩ := put_own_eq_some put completed
        obtain ⟨b, fallback, rfl⟩ := Option.map_eq_some_iff.mp reset
        rw [complete_cons, fallback, done]
        rfl
      · -- the first field keeps what its slot holds, or its fallback
        obtain ⟨slot, slots⟩ := slots
        obtain ⟨h, resets, rfl⟩ := Option.map_eq_some_iff.mp reset
        obtain ⟨s', tail, put, done, filled, he⟩ := put_other_eq_some other put completed
        rw [he, complete_cons, filled, ih later resets put done]
        rfl

end Fields

/-! ## §3. Codecs that follow changes. -/

/-- A codec reads the value that a change leads to. -/
structure Codec.Follows {α : Type} (codec : Codec α) (change : Change α) : Prop where
  /-- What is read is settled by the tree. -/
  uniform : codec.Uniform
  /-- A value that was read becomes what the change makes of it. -/
  follows : ∀ {t t' f a}, change t t' f → codec.meaning t = some a →
    codec.meaning t' = some (f a)

/-- Where nothing changes there is nothing to follow. -/
theorem Codec.Uniform.follows_never {α : Type} {codec : Codec α} (h : codec.Uniform) :
    codec.Follows .never where
  uniform := h
  follows := fun step => step.elim

namespace Fields

variable {βs : List Type}

/-- The codec of each field follows the changes of its values. -/
def Follows : {βs : List Type} → Fields βs → Changes βs → Prop
  | _, .nil, .nil => True
  | _, .cons f rest, .cons change changes => f.codec.Follows change ∧ rest.Follows changes

theorem Follows.uniform {fields : Fields βs} {changes : Changes βs} (h : fields.Follows changes) :
    fields.Uniform := by
  induction fields with
  | nil => trivial
  | cons f rest ih =>
      cases changes with
      | cons => exact ⟨h.1.uniform, ih h.2⟩

theorem Uniform.follows_still {fields : Fields βs} (h : fields.Uniform) :
    fields.Follows fields.still := by
  induction fields with
  | nil => trivial
  | cons f rest ih => exact ⟨h.1.follows_never, ih h.2⟩

/-- **A change of the value of a member is one at its place in the row.** -/
theorem complete_at {fields : Fields βs} {changes : Changes βs} (follows : fields.Follows changes)
    {name : String} {i : Nat} (place : fields.place? name = some i) {t t' : Tree}
    {g : Row βs → Row βs} (inside : changes.At i t t' g) {slots s : Slots βs}
    (put : fields.put name t slots = some s) {row : Row βs}
    (completed : (fields.complete s).toOption = some row) :
    ∃ s', fields.put name t' slots = some s' ∧ (fields.complete s').toOption = some (g row) := by
  induction fields generalizing i with
  | nil => cases place
  | cons f rest ih =>
      cases changes with
      | cons change changes =>
          rcases place?_cons_eq_some place with ⟨rfl, rfl⟩ | ⟨other, j, later, rfl⟩
          · obtain ⟨a, others, tail, rfl, value, done, rfl⟩ := put_own_eq_some put completed
            obtain ⟨h, inside, rfl⟩ := inside
            refine ⟨(some (h a), others), ?_, ?_⟩
            · rw [put_cons_own, Field.put, follows.1.follows inside value]
              rfl
            · rw [complete_cons, done]
              rfl
          · obtain ⟨slot, slots⟩ := slots
            obtain ⟨h, inside, rfl⟩ := inside
            obtain ⟨s', tail, put, done, filled, he⟩ := put_other_eq_some other put completed
            obtain ⟨s'', put', done'⟩ := ih follows.2 later inside put done
            refine ⟨(slot, s''), ?_, ?_⟩
            · rw [put_cons_of_ne other, put']
              rfl
            · rw [he, complete_cons, filled, done']
              rfl

/-- **A change of an element is one at its place in the row.** -/
theorem elements_at {fields : Fields βs} {changes : Changes βs} (follows : fields.Follows changes)
    {before after : List Tree} {t t' : Tree} {g : Row βs → Row βs}
    (inside : changes.At before.length t t' g) {row : Row βs}
    (read : fields.elements (before ++ t :: after) = some row) :
    fields.elements (before ++ t' :: after) = some (g row) := by
  induction fields generalizing before with
  | nil =>
      cases changes with
      | nil => exact inside.elim
  | cons f rest ih =>
      cases changes with
      | cons change changes =>
          cases before with
          | nil =>
              obtain ⟨a, value, read⟩ := Option.bind_eq_some_iff.mp read
              obtain ⟨tail, others, rfl⟩ := Option.map_eq_some_iff.mp read
              obtain ⟨h, inside, rfl⟩ := inside
              show ((f.codec.meaning t').bind fun a =>
                (rest.elements after).map fun row => (a, row)) = _
              rw [follows.1.follows inside value, others]
              rfl
          | cons u before =>
              obtain ⟨a, value, read⟩ := Option.bind_eq_some_iff.mp read
              obtain ⟨tail, others, rfl⟩ := Option.map_eq_some_iff.mp read
              obtain ⟨h, inside, rfl⟩ := inside
              show ((f.codec.meaning u).bind fun a =>
                (rest.elements (before ++ t' :: after)).map fun row => (a, row)) = _
              rw [value, ih follows.2 inside others]
              rfl

/-! ## §4. Objects. -/

/-- A member among others may come last, since the order does not matter. -/
theorem fill_middle (fields : Fields βs) (slots : Option (Slots βs))
    (before after : List (Quoted × Tree)) (m : Quoted × Tree) :
    fields.fill slots (before ++ m :: after)
      = fields.putMember (fields.fill slots (before ++ after)) m := by
  have last : (before ++ m :: after).Perm ((before ++ after) ++ [m]) :=
    List.perm_middle.trans (List.perm_append_singleton m (before ++ after)).symm
  rw [fields.fill_perm slots last, fill, List.foldl_append]
  rfl

theorem object_perm (fields : Fields βs) {ms ms' : List (Quoted × Tree)} (h : ms.Perm ms') :
    fields.object ms = fields.object ms' := by
  rw [object, fields.fill_perm _ h, object]

/-- A member that no field takes does not matter. -/
theorem object_unknown {fields : Fields βs} {m : Quoted × Tree} (h : fields.Unknown m)
    (before after : List (Quoted × Tree)) :
    fields.object (before ++ m :: after) = fields.object (before ++ after) := by
  obtain ⟨name, named, unknown⟩ := h
  rw [object, fill_middle, object]
  cases fields.fill (some fields.vacant) (before ++ after) with
  | none => rfl
  | some slots =>
      unfold putMember
      rw [named, Option.bind_some, Option.bind_some, put_of_not_mem unknown]

/-- A member fills its slot after all others have filled theirs. -/
theorem object_middle {fields : Fields βs} {k : Quoted} {name : String}
    (named : k.value? = some name) (t : Tree) (before after : List (Quoted × Tree)) {row : Row βs} :
    fields.object (before ++ (k, t) :: after) = some row
      ↔ ∃ slots s, fields.fill (some fields.vacant) (before ++ after) = some slots
          ∧ fields.put name t slots = some s ∧ (fields.complete s).toOption = some row := by
  rw [object, fill_middle]
  constructor
  · intro h
    obtain ⟨s, filled, completed⟩ := Option.bind_eq_some_iff.mp h
    obtain ⟨slots, others, filled⟩ := Option.bind_eq_some_iff.mp filled
    rw [named, Option.bind_some] at filled
    exact ⟨slots, s, others, filled, completed⟩
  · rintro ⟨slots, s, others, filled, completed⟩
    rw [others, putMember, Option.bind_some, named, Option.bind_some, filled, Option.bind_some,
      completed]

end Fields

namespace Codec

variable {α : Type} {βs : List Type}

/-- One element of a list that is read becomes another. -/
theorem mapM_modify {item : Codec α} {f : α → α} {t t' : Tree}
    (step : ∀ a, item.meaning t = some a → item.meaning t' = some (f a)) {before after : List Tree}
    {as : List α} (read : (before ++ t :: after).mapM item.meaning = some as) :
    (before ++ t' :: after).mapM item.meaning = some (as.modify before.length f) := by
  induction before generalizing as with
  | nil =>
      rw [List.nil_append, List.mapM_cons] at read ⊢
      obtain ⟨a, value, read⟩ := Option.bind_eq_some_iff.mp read
      obtain ⟨others, items, he⟩ := Option.bind_eq_some_iff.mp read
      injection he with he
      subst he
      rw [step a value, items]
      rfl
  | cons u before ih =>
      rw [List.cons_append, List.mapM_cons] at read ⊢
      obtain ⟨a, value, read⟩ := Option.bind_eq_some_iff.mp read
      obtain ⟨others, items, he⟩ := Option.bind_eq_some_iff.mp read
      injection he with he
      subst he
      rw [value, ih items]
      rfl

theorem list_follows {item : Codec α} {change : Change α} (h : item.Follows change) :
    item.list.Follows (.items change) where
  uniform := list_uniform h.uniform
  follows := by
    intro t t' f as step read
    cases step with
    | element inside =>
        rw [meaning_list h.uniform] at read ⊢
        exact mapM_modify (fun _ => h.follows inside) read

/-- **A record follows reordered, unknown and missing members**, and what
changes in its fields. -/
theorem record_follows (name : String) {fields : Fields βs} {inner : Changes βs}
    (h : fields.Follows inner) {ofRow : Row βs → α} {toRow : α → Row βs}
    (inverse : ∀ row, toRow (ofRow row) = row) (losing : Bool) :
    (record name fields ofRow toRow).Follows (.record losing fields inner ofRow toRow) where
  uniform := record_uniform name h.uniform ofRow toRow
  follows := by
    intro t t' f a step read
    have object := meaning_object name h.uniform ofRow toRow
    have array := meaning_array name h.uniform ofRow toRow
    have effect : ∀ (g : Row βs → Row βs) row, ofRow (g row) = ofRow (g (toRow (ofRow row))) := by
      intro g row
      rw [inverse]
    cases step with
    | reorder order => rwa [object, fields.object_perm order, ← object] at read
    | insert unknown => rwa [object, ← fields.object_unknown unknown, ← object] at read
    | @replace before after k t t' unknown =>
        have unknown' : fields.Unknown (k, t') := unknown
        rwa [object, Fields.object_unknown unknown, ← Fields.object_unknown unknown', ← object]
          at read
    | lose allowed named place reset =>
        -- the other members have filled their slots before, whatever the order
        rw [object] at read
        obtain ⟨row, members, rfl⟩ := Option.map_eq_some_iff.mp read
        obtain ⟨slots, s, others, put, completed⟩ := (Fields.object_middle named _ _ _).mp members
        rw [object, Fields.object, others, Option.bind_some,
          Fields.complete_reset place reset put completed]
        exact congrArg some (effect _ row)
    | member named place inside =>
        rw [object] at read
        obtain ⟨row, members, rfl⟩ := Option.map_eq_some_iff.mp read
        obtain ⟨slots, s, others, put, completed⟩ := (Fields.object_middle named _ _ _).mp members
        obtain ⟨s', put', completed'⟩ := Fields.complete_at h place inside put completed
        rw [object, (Fields.object_middle named _ _ _).mpr ⟨slots, s', others, put', completed'⟩]
        exact congrArg some (effect _ row)
    | element inside =>
        rw [array] at read
        obtain ⟨row, elements, rfl⟩ := Option.map_eq_some_iff.mp read
        rw [array, Fields.elements_at h inside elements]
        exact congrArg some (effect _ row)

/-- Changes one after the other are followed one after the other. -/
theorem Follows.steps {codec : Codec α} {change : Change α} (h : codec.Follows change) :
    codec.Follows change.Steps where
  uniform := h.uniform
  follows := by
    -- each change leads to a tree that is read, from which the others go on
    intro t t' f a steps read
    induction steps generalizing a with
    | refl => exact read
    | step first others ih => exact ih (h.follows first read)

end Codec

/-! ## §6. Changes that leave a value as it is. -/

/-- Nothing becomes of a value. -/
def Change.Silent {α : Type} (change : Change α) : Prop :=
  ∀ t t' f, change t t' f → ∀ a, f a = a

theorem Change.never_silent {α : Type} : (Change.never : Change α).Silent :=
  fun _ _ _ step => step.elim

/-- Nothing becomes of the value of any field. -/
def Changes.Silent : {βs : List Type} → Changes βs → Prop
  | _, .nil => True
  | _, .cons change rest => change.Silent ∧ rest.Silent

theorem Changes.Silent.at {βs : List Type} {changes : Changes βs} (h : changes.Silent) {i : Nat}
    {t t' : Tree} {g : Row βs → Row βs} (inside : changes.At i t t' g) (row : Row βs) :
    g row = row := by
  induction changes generalizing i with
  | nil => exact inside.elim
  | cons change rest ih =>
      cases i with
      | zero =>
          obtain ⟨f, inside, rfl⟩ := inside
          exact Prod.ext (h.1 _ _ _ inside row.1) rfl
      | succ i =>
          obtain ⟨g', inside, rfl⟩ := inside
          exact Prod.ext rfl (ih h.2 inside row.2)

namespace Fields

theorem still_silent {βs : List Type} (fields : Fields βs) : fields.still.Silent := by
  induction fields with
  | nil => trivial
  | cons f rest ih => exact ⟨Change.never_silent, ih⟩

end Fields

namespace Change

variable {α : Type} {βs : List Type}

theorem items_silent {change : Change α} (h : change.Silent) : (items change).Silent := by
  intro t t' f step as
  cases step with
  | @element before after t t' f inside =>
      have same : f = id := funext (h _ _ _ inside)
      show as.modify before.length f = as
      rw [same, List.modify_id]

/-- **Unless a member is lost, a change of a record does nothing to its value.** -/
theorem record_silent (fields : Fields βs) {inner : Changes βs} (h : inner.Silent)
    {ofRow : Row βs → α} {toRow : α → Row βs} (inverse : ∀ a, ofRow (toRow a) = a) :
    (record false fields inner ofRow toRow).Silent := by
  intro t t' f step a
  cases step with
  | reorder => rfl
  | insert => rfl
  | replace => rfl
  | lose allowed => cases allowed
  | member named place inside => exact (congrArg ofRow (h.at inside _)).trans (inverse a)
  | element inside => exact (congrArg ofRow (h.at inside _)).trans (inverse a)

theorem steps_silent {change : Change α} (h : change.Silent) : change.Steps.Silent := by
  intro t t' f steps a
  induction steps with
  | refl => rfl
  | @step t t' t'' f g first others ih =>
      show g (f a) = a
      rw [h _ _ _ first, ih]

end Change

/-! ## §7. Whole texts. -/

/-- What is decoded does not depend on the order of members and on unknown
ones, and a missing member counts as its fallback.  The changes that are
allowed with the flag lose members. -/
structure ReadsAcrossVersions {α ε : Type} (decode : String → Except ε α)
    (change : Bool → Change α) : Prop where
  /-- Every value is decoded from some text. -/
  every : ∀ a, ∃ body, decode body = .ok a
  /-- A text that is decoded is one of a tree. -/
  parsed : ∀ body a, decode body = .ok a → ∃ t : Tree, t.IsText body
  /-- As long as no member is lost, the same value is decoded. -/
  kept : ∀ body body' t t' f a, t.IsText body → t'.IsText body' → (change false).Steps t t' f →
    decode body = .ok a → decode body' = .ok a
  /-- With members lost, the value is decoded that has their fallbacks. -/
  lost : ∀ body body' t t' f a, t.IsText body → t'.IsText body' → (change true).Steps t t' f →
    decode body = .ok a → decode body' = .ok (f a)

/-- **A codec that reads back what it writes, and follows changes, reads across
versions.** -/
theorem Codec.Follows.readsAcrossVersions {α ε : Type} {codec : Codec α} {change : Bool → Change α}
    (follows : ∀ losing, codec.Follows (change losing)) (silent : (change false).Silent)
    (lawful : codec.Lawful) {decode : String → Except ε α}
    (decodes : ∀ body a, decode body = .ok a ↔ codec.decode body = .ok a) :
    ReadsAcrossVersions decode change := by
  have uniform := (follows false).uniform
  have changed : ∀ {losing body body' t t' f a}, t.IsText body → t'.IsText body' →
      (change losing).Steps t t' f → decode body = .ok a → decode body' = .ok (f a) := by
    intro losing body body' t t' f a text text' steps decoded
    rw [decodes, uniform.decode_eq_ok_iff text] at decoded
    rw [decodes, uniform.decode_eq_ok_iff text']
    exact (follows losing).steps.follows steps decoded
  constructor
  case every => exact fun a => ⟨codec.encode a, (decodes _ a).mpr (lawful.decode_encode a)⟩
  case parsed => exact fun body a decoded => uniform.exists_tree ((decodes body a).mp decoded)
  case kept =>
    intro body body' t t' f a text text' steps decoded
    rw [changed text text' steps decoded, Change.steps_silent silent _ _ _ steps]
  case lost => exact fun _ _ _ _ _ _ text text' steps decoded => changed text text' steps decoded

end TunnelControl.Json
