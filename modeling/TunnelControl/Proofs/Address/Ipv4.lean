/-
  TunnelControl.Proofs.Address.Ipv4
  ─────────────────────────────────
  **FOUR OCTETS ARE READ BACK.**

  An octet is written as a number below 256, which has at most three digits
  and no leading zero, so the reader takes it; and no octet holds a dot, so
  the four are found again.

    • `traverse?_map`, `vectorOf?_toList` — lists through a reader, lists of a length,
    • `parts_joined`, `mem_joined`        — pieces with separators between them,
    • `octet?_decimal`                    — one octet,
    • `Ipv4.ofChars?_toChars`             — an address,
    • `Ipv4.ofChars?_eq_none`             — nothing else stands in one.
-/
import TunnelControl.Address.Ip
import TunnelControl.Proofs.Text.Decimal
import TunnelControl.Proofs.Text.Parts

namespace TunnelControl

/-! ## §1. Lists. -/

section Lists

variable {α β : Type}

/-- What is written item by item is read item by item. -/
theorem traverse?_map {read : β → Option α} {write : α → β} {items : List α}
    (h : ∀ a ∈ items, read (write a) = some a) : traverse? read (items.map write) = some items := by
  induction items with
  | nil => rfl
  | cons a items ih =>
      rw [List.map_cons, traverse?, h a List.mem_cons_self,
        ih fun b listed => h b (List.mem_cons_of_mem _ listed)]
      rfl

/-- Each item of a list that was read has a value. -/
theorem isSome_of_traverse? {read : β → Option α} {texts : List β} {items : List α}
    (h : traverse? read texts = some items) {t : β} (listed : t ∈ texts) :
    (read t).isSome = true := by
  induction texts generalizing items with
  | nil => cases listed
  | cons u texts ih =>
      unfold traverse? at h
      obtain ⟨a, first, h⟩ := Option.bind_eq_some_iff.mp h
      obtain ⟨as, rest, -⟩ := Option.bind_eq_some_iff.mp h
      obtain rfl | later := List.mem_cons.mp listed
      · rw [first]
        rfl
      · exact ih rest later

theorem traverse?_append (read : β → Option α) (texts others : List β) :
    traverse? read (texts ++ others)
      = (traverse? read texts).bind fun items => (traverse? read others).map (items ++ ·) := by
  induction texts with
  | nil => simp [traverse?]
  | cons t texts ih =>
      rw [List.cons_append, traverse?, traverse?, ih]
      cases read t with
      | none => rfl
      | some a => cases traverse? read texts <;> cases traverse? read others <;> rfl

theorem vectorOf?_toList {n : Nat} (v : Vector α n) : vectorOf? n v.toList = some v := by
  unfold vectorOf?
  rw [dif_pos v.length_toList]
  rfl

end Lists

/-! ## §2. Joined pieces. -/

namespace Ipv4

variable {sep : Char}

/-- **Pieces without the separator are found again.** -/
theorem parts_joined {ps : List (List Char)} (some : ps ≠ []) (free : ∀ p ∈ ps, sep ∉ p) :
    Text.parts sep (joined sep ps) = ps := by
  induction ps with
  | nil => exact absurd rfl some
  | cons p ps ih =>
      cases ps with
      | nil => exact Text.parts_of_not_mem (free p List.mem_cons_self)
      | cons q qs =>
          rw [joined, Text.parts_append (free p List.mem_cons_self),
            ih (List.cons_ne_nil q qs) fun r listed => free r (List.mem_cons_of_mem _ listed)]

/-- A character of the whole is the separator or stands in a piece. -/
theorem mem_joined {ps : List (List Char)} {c : Char} (h : c ∈ joined sep ps) :
    c = sep ∨ ∃ p ∈ ps, c ∈ p := by
  induction ps with
  | nil => cases h
  | cons p ps ih =>
      cases ps with
      | nil => exact .inr ⟨p, List.mem_cons_self, h⟩
      | cons q qs =>
          obtain within | rest := List.mem_append.mp h
          · exact .inr ⟨p, List.mem_cons_self, within⟩
          · obtain rfl | rest := List.mem_cons.mp rest
            · exact .inl rfl
            · exact (ih rest).imp_right fun ⟨r, listed, within⟩ =>
                ⟨r, List.mem_cons_of_mem _ listed, within⟩

/-- A separator stands between two pieces. -/
theorem sep_mem_joined {ps : List (List Char)} (h : 1 < ps.length) : sep ∈ joined sep ps := by
  match ps, h with
  | p :: q :: qs, _ => exact List.mem_append_right p List.mem_cons_self

/-! ## §3. Octets. -/

theorem octet?_decimal (o : UInt8) : octet? (Text.decimal o.toNat) = some o := by
  have small : o.toNat < 256 := o.toNat_lt
  have short : (Text.decimal o.toNat).length ≤ 3 :=
    (Nat.length_toDigits_le_iff (by decide) (by decide)).mpr (by omega)
  have noZero : ¬ (1 < (Text.decimal o.toNat).length ∧ (Text.decimal o.toNat).head? = some '0') := by
    rintro ⟨long, zero⟩
    obtain ⟨ds, digits⟩ := List.head?_eq_some_iff.mp zero
    rw [digits, (Text.decimal_head_zero digits).2] at long
    exact absurd long (by decide)
  unfold octet?
  rw [Text.digits?_decimal]
  dsimp only
  rw [if_neg, UInt8.ofNat_toNat]
  -- too many digits, a leading zero, too large
  rintro (long | zero | large)
  · omega
  · exact noZero zero
  · omega

/-- Nothing but digits stands in an octet. -/
theorem isDigit_of_octet? {cs : List Char} (h : (octet? cs).isSome = true) {c : Char}
    (listed : c ∈ cs) : Text.isDigit c = true := by
  unfold octet? Text.digits? at h
  split at h
  next => cases h
  next n digits =>
    split at digits
    next => cases digits
    next all =>
      simp only [Bool.or_eq_true, Bool.not_eq_true', not_or, Bool.not_eq_false] at all
      exact List.all_eq_true.mp all.2 c listed

/-! ## §4. Addresses. -/

theorem not_mem_decimal {n : Nat} {c : Char} (other : Text.isDigit c = false) :
    c ∉ Text.decimal n := by
  intro listed
  rw [Text.isDigit_of_mem_decimal listed] at other
  cases other

/-- **The text of an address is read as that address.** -/
theorem ofChars?_toChars (a : Ipv4) : ofChars? a.toChars = some a := by
  have free : ∀ p ∈ a.octets.toList.map fun o => Text.decimal o.toNat, '.' ∉ p := by
    intro p listed
    obtain ⟨o, -, rfl⟩ := List.mem_map.mp listed
    exact not_mem_decimal (by decide)
  have some : (a.octets.toList.map fun o => Text.decimal o.toNat) ≠ [] := by
    rw [← List.length_pos_iff, List.length_map, Vector.length_toList]
    decide
  unfold ofChars? toChars
  rw [parts_joined some free, traverse?_map fun o _ => octet?_decimal o]
  show (vectorOf? 4 a.octets.toList >>= _) = _
  rw [vectorOf?_toList]
  rfl

/-- Nothing but digits and dots stands in an address. -/
theorem ofChars?_eq_none {cs : List Char} {c : Char} (listed : c ∈ cs)
    (digit : Text.isDigit c = false) (dot : c ≠ '.') : ofChars? cs = none := by
  -- the character is no separator, so it stands in a piece, which is no octet then
  obtain ⟨p, piece, within⟩ := Text.mem_parts_of_mem listed dot
  unfold ofChars?
  cases octets : traverse? octet? (Text.parts '.' cs) with
  | none => rfl
  | some os =>
      rw [isDigit_of_octet? (isSome_of_traverse? octets piece) within] at digit
      cases digit

theorem mem_toChars {a : Ipv4} {c : Char} (h : c ∈ a.toChars) :
    c = '.' ∨ Text.isDigit c = true := by
  refine (mem_joined h).imp_right ?_
  rintro ⟨p, listed, within⟩
  obtain ⟨o, -, rfl⟩ := List.mem_map.mp listed
  exact Text.isDigit_of_mem_decimal within

/-- No colon stands in an address. -/
theorem colon_not_mem_toChars (a : Ipv4) : ':' ∉ a.toChars := by
  intro listed
  obtain dot | digit := mem_toChars listed
  · exact absurd dot (by decide)
  · exact absurd digit (by decide)

/-- A dot stands in each address. -/
theorem dot_mem_toChars (a : Ipv4) : '.' ∈ a.toChars := by
  refine sep_mem_joined ?_
  rw [List.length_map, Vector.length_toList]
  decide

end Ipv4

end TunnelControl
