/-
  TunnelControl.Proofs.Address.Spelling
  ─────────────────────────────────────
  **THE TEXTS THAT ARE ADDRESSES.**

  An IPv4 address has one text.  An IPv6 address has many: its groups may have
  leading zeros and letters of either case, one run of zero groups may be left
  out, and the last two groups may be dotted.  The grammar says which texts
  these are; the reader takes each of them, and no other one.

    • `Ipv4.ofChars?_eq_some_iff`  — the one text of an IPv4 address,
    • `Ipv6.IsGroup`, `Ipv6.Tail`, `Ipv6.Spelled` — the grammar of IPv6,
    • `Ipv6.ofChars?_eq_some_iff`  — what is read is what the grammar has,
    • `IpAddress.Spelled`, `IpAddress.ofChars?_eq_some_iff` — either family.
-/
import Mathlib.Data.List.Forall2
import Mathlib.Data.List.Induction
import TunnelControl.Proofs.Address.Ipv6

namespace TunnelControl

/-! ## §1. Lists. -/

section Lists

variable {α β : Type}

/-- A list is read as another one exactly if each item is read as its
counterpart. -/
theorem traverse?_eq_some_iff {read : β → Option α} {texts : List β} {items : List α} :
    traverse? read texts = some items ↔ List.Forall₂ (fun t a => read t = some a) texts items := by
  induction texts generalizing items with
  | nil => simp [traverse?, eq_comm]
  | cons t texts ih =>
      unfold traverse?
      rw [List.forall₂_cons_left_iff]
      constructor
      · intro h
        obtain ⟨a, first, h⟩ := Option.bind_eq_some_iff.mp h
        obtain ⟨as, rest, h⟩ := Option.bind_eq_some_iff.mp h
        exact ⟨a, as, first, ih.mp rest, (Option.some.inj h).symm⟩
      · rintro ⟨a, as, first, rest, rfl⟩
        rw [first, ih.mpr rest]
        rfl

theorem vectorOf?_eq_some_iff {n : Nat} {items : List α} {v : Vector α n} :
    vectorOf? n items = some v ↔ items = v.toList := by
  constructor
  · intro h
    unfold vectorOf? at h
    split at h
    next => exact congrArg Vector.toList (Option.some.inj h)
    next => cases h
  · rintro rfl
    exact vectorOf?_toList v

end Lists

/-- Pieces that were cut at a separator make up the text again. -/
theorem joined_parts (sep : Char) (cs : List Char) : Ipv4.joined sep (Text.parts sep cs) = cs := by
  induction cs with
  | nil => rfl
  | cons c cs ih =>
      unfold Text.parts
      split
      next same =>
        cases found : Text.parts sep cs with
        | nil => exact absurd found (Text.parts_ne_nil sep cs)
        | cons p ps =>
            rw [found] at ih
            rw [Ipv4.joined, ih, same]
            rfl
      next =>
      split
      next none => exact absurd none (Text.parts_ne_nil sep cs)
      next p ps found =>
        rw [found] at ih
        cases ps with
        | nil => exact congrArg (c :: ·) ih
        | cons q qs => exact congrArg (c :: ·) ih

/-! ## §2. IPv4. -/

/-- A digit is the one that its value is written with. -/
theorem Text.digitChar_digitValue {c : Char} (digit : Text.isDigit c = true) :
    Nat.digitChar (c.toNat - 48) = c ∧ c.toNat - 48 < 10 := by
  unfold Text.isDigit at digit
  rw [Bool.and_eq_true, decide_eq_true_iff, decide_eq_true_iff] at digit
  have low : 48 ≤ c.toNat := digit.1
  have high : c.toNat ≤ 57 := digit.2
  have all : ∀ d : Fin 10, Nat.digitChar d = Char.ofNat (48 + d) := by decide
  have small : c.toNat - 48 < 10 := by omega
  refine ⟨(all ⟨c.toNat - 48, small⟩).trans ?_, small⟩
  rw [Nat.add_sub_cancel' low, Char.ofNat_toNat]

/-- **Digits of which the first is no zero are the ones that their number is
written with.** -/
theorem Text.decimal_ofDigitChars {cs : List Char} (filled : cs ≠ [])
    (digits : ∀ c ∈ cs, Text.isDigit c = true) (noZero : cs.head? = some '0' → cs = ['0']) :
    Text.decimal (Nat.ofDigitChars 10 cs 0) = cs := by
  -- from the end, where the number has its last digit
  induction cs using List.reverseRecOn with
  | nil => exact absurd rfl filled
  | append_singleton front c ih =>
    obtain ⟨last, small⟩ := digitChar_digitValue (digits c (by simp))
    have value : Nat.ofDigitChars 10 (front ++ [c]) 0
        = 10 * Nat.ofDigitChars 10 front 0 + (c.toNat - 48) := by
      rw [Nat.ofDigitChars_append, Nat.ofDigitChars_cons, Nat.ofDigitChars_nil]
      rfl
    unfold Text.decimal at ih ⊢
    rw [value]
    by_cases alone : front = []
    · subst alone
      rw [Nat.ofDigitChars_nil, Nat.mul_zero, Nat.zero_add, Nat.toDigits_of_lt_base small, last]
      rfl
    · have leads : front.head? ≠ some '0' := by
        intro zero
        have one := congrArg List.length (noZero (by rw [List.head?_append, zero]; rfl))
        rw [List.length_append] at one
        exact alone (List.eq_nil_of_length_eq_zero (Nat.succ.inj one))
      have written := ih alone (fun d listed => digits d (List.mem_append_left _ listed))
        fun zero => absurd zero leads
      generalize Nat.ofDigitChars 10 front 0 = n at written
      have positive : n ≠ 0 := by
        rintro rfl
        rw [← written] at leads
        exact leads rfl
      rw [Nat.toDigits_of_base_le (by decide) (by omega)]
      rw [show (10 * n + (c.toNat - 48)) / 10 = n by omega,
        show (10 * n + (c.toNat - 48)) % 10 = c.toNat - 48 by omega, written, last]

/-- A run of digits denotes their number. -/
theorem Text.digits?_eq_some_iff {cs : List Char} {n : Nat} :
    Text.digits? cs = some n
      ↔ cs ≠ [] ∧ (∀ c ∈ cs, Text.isDigit c = true) ∧ n = Nat.ofDigitChars 10 cs 0 := by
  unfold Text.digits?
  rw [← digitsFrom_eq, ← List.all_eq_true, ← List.isEmpty_eq_false_iff]
  show (if _ then none else some (digitsFrom 0 cs)) = _ ↔ _
  cases cs.isEmpty <;> cases cs.all Text.isDigit <;> simp [eq_comm]

namespace Ipv4

/-- An octet has one text: its digits, without a leading zero. -/
theorem octet?_eq_some_iff {cs : List Char} {o : UInt8} :
    octet? cs = some o ↔ cs = Text.decimal o.toNat := by
  constructor
  · intro h
    unfold octet? at h
    split at h
    next => cases h
    next n found =>
      split at h
      next => cases h
      next fits =>
        obtain ⟨filled, digits, value⟩ := Text.digits?_eq_some_iff.mp found
        obtain ⟨-, leads, small⟩ := (not_or.trans (and_congr_right' not_or)).mp fits
        have noZero : cs.head? = some '0' → cs = ['0'] := by
          intro zero
          obtain ⟨rest, rfl⟩ := List.head?_eq_some_iff.mp zero
          cases rest with
          | nil => rfl
          | cons d rest => exact absurd ⟨by simp, zero⟩ leads
        rw [← Option.some.inj h, UInt8.toNat_ofNat_of_lt' (by show n < 256; omega), value]
        exact (Text.decimal_ofDigitChars filled digits noZero).symm
  · rintro rfl
    exact octet?_decimal o

/-- **A text is an IPv4 address exactly if it is the one that the address is
shown with.** -/
theorem ofChars?_eq_some_iff {cs : List Char} {a : Ipv4} : ofChars? cs = some a ↔ cs = a.toChars := by
  constructor
  · intro h
    obtain ⟨os, octets, h⟩ := Option.bind_eq_some_iff.mp h
    obtain ⟨v, four, h⟩ := Option.bind_eq_some_iff.mp h
    obtain rfl := Option.some.inj h
    have texts : Text.parts '.' cs = os.map fun o => Text.decimal o.toNat := by
      rw [traverse?_eq_some_iff] at octets
      rw [← List.forall₂_eq_eq_eq, List.forall₂_map_right_iff]
      exact octets.imp fun _ _ => octet?_eq_some_iff.mp
    rw [← joined_parts '.' cs, texts, vectorOf?_eq_some_iff.mp four]
    rfl
  · rintro rfl
    exact ofChars?_toChars a

end Ipv4

/-! ## §3. The grammar of IPv6. -/

namespace Ipv6

/-- One to four hexadecimal digits that make up a number. -/
def IsGroup (cs : List Char) (g : UInt16) : Prop :=
  cs ≠ [] ∧ cs.length ≤ 4
    ∧ ∃ ds, List.Forall₂ (fun c d => hexValue? c = some d) cs ds
        ∧ g = UInt16.ofNat (ds.foldl (fun n d => 16 * n + d) 0)

/-- Groups, the last two of which may be written as an IPv4 address. -/
inductive Tail : List (List Char) → List UInt16 → Prop where
  | groups {texts : List (List Char)} {gs : List UInt16} (groups : List.Forall₂ IsGroup texts gs) :
      Tail texts gs
  | dotted {texts : List (List Char)} {gs : List UInt16} (groups : List.Forall₂ IsGroup texts gs)
      (v4 : Ipv4) : Tail (texts ++ [v4.toChars]) (gs ++ v4.toGroups)

/-- The texts of an address. -/
inductive Spelled (a : Ipv6) : List Char → Prop where
  /-- All eight groups, with colons between them. -/
  | full {texts : List (List Char)} (groups : Tail texts a.groups.toList) :
      Spelled a (Ipv4.joined ':' texts)
  /-- Some groups, two colons for one or more zeros, and the other groups. -/
  | short {before behind : List (List Char)} {gs hs : List UInt16} {zeros : Nat}
      (first : List.Forall₂ IsGroup before gs) (last : Tail behind hs) (left : 0 < zeros)
      (split : a.groups.toList = gs ++ List.replicate zeros 0 ++ hs) :
      Spelled a (Ipv4.joined ':' before ++ ':' :: ':' :: Ipv4.joined ':' behind)

theorem group?_eq_some_iff {cs : List Char} {g : UInt16} : group? cs = some g ↔ IsGroup cs g := by
  unfold group? IsGroup
  constructor
  · intro h
    split at h
    next => cases h
    next size =>
      obtain ⟨some, short⟩ := not_or.mp size
      obtain ⟨ds, digits, value⟩ := Option.map_eq_some_iff.mp h
      exact ⟨mt List.isEmpty_iff.mpr some, Nat.le_of_not_lt short, ds,
        traverse?_eq_some_iff.mp digits, value.symm⟩
  · rintro ⟨some, short, ds, digits, rfl⟩
    rw [if_neg, traverse?_eq_some_iff.mpr digits]
    · rfl
    · rintro (none | long)
      · exact some (List.isEmpty_iff.mp none)
      · exact absurd short (Nat.not_le_of_lt long)

theorem traverse?_group?_iff {texts : List (List Char)} {gs : List UInt16} :
    traverse? group? texts = some gs ↔ List.Forall₂ IsGroup texts gs := by
  rw [traverse?_eq_some_iff]
  constructor
  · exact fun h => h.imp fun _ _ => group?_eq_some_iff.mp
  · exact fun h => h.imp fun _ _ => group?_eq_some_iff.mpr

/-- Nothing but hexadecimal digits stands in a group. -/
theorem IsGroup.hex {cs : List Char} {g : UInt16} (h : IsGroup cs g) {c : Char} (listed : c ∈ cs) :
    (hexValue? c).isSome = true := by
  obtain ⟨-, -, ds, digits, -⟩ := h
  exact isSome_of_traverse? (traverse?_eq_some_iff.mpr digits) listed

/-- A piece between colons is a group or a dotted address. -/
theorem Tail.piece {texts : List (List Char)} {gs : List UInt16} (tail : Tail texts gs)
    {t : List Char} (listed : t ∈ texts) : (∃ g, IsGroup t g) ∨ ∃ v4 : Ipv4, t = v4.toChars := by
  have group : ∀ {texts : List (List Char)} {gs : List UInt16}, List.Forall₂ IsGroup texts gs →
      t ∈ texts → ∃ g, IsGroup t g := by
    intro texts gs groups listed
    have read := isSome_of_traverse? (traverse?_group?_iff.mpr groups) listed
    obtain ⟨g, read⟩ := Option.isSome_iff_exists.mp read
    exact ⟨g, group?_eq_some_iff.mp read⟩
  cases tail with
  | groups groups => exact .inl (group groups listed)
  | dotted groups v4 =>
      obtain listed | last := List.mem_append.mp listed
      · exact .inl (group groups listed)
      · exact .inr ⟨v4, List.mem_singleton.mp last⟩

/-- What stands between colons is not empty and holds none itself. -/
theorem Tail.solid {texts : List (List Char)} {gs : List UInt16} (tail : Tail texts gs) :
    ∀ t ∈ texts, ':' ∉ t ∧ t ≠ [] := by
  intro t listed
  obtain ⟨g, group⟩ | ⟨v4, rfl⟩ := tail.piece listed
  · exact ⟨fun colon => absurd (group.hex colon) (by decide), group.1⟩
  · exact ⟨v4.colon_not_mem_toChars, List.ne_nil_of_mem v4.dot_mem_toChars⟩

/-- A dotted address counts as two groups, and every other text as one. -/
theorem Tail.length_le {texts : List (List Char)} {gs : List UInt16} (tail : Tail texts gs) :
    gs.length ≤ texts.length + 1 := by
  cases tail with
  | groups groups => exact groups.length_eq ▸ Nat.le_succ _
  | dotted groups v4 =>
      rw [List.length_append, List.length_append, groups.length_eq]
      exact Nat.le_refl _

/-! ## §4. What is read. -/

/-- One more group in front. -/
theorem Tail.cons {t : List Char} {g : UInt16} {texts : List (List Char)} {gs : List UInt16}
    (first : IsGroup t g) (tail : Tail texts gs) : Tail (t :: texts) (g :: gs) := by
  cases tail with
  | groups groups => exact .groups (.cons first groups)
  | dotted groups v4 => exact .dotted (.cons first groups) v4

theorem tail_of_tail? {texts : List (List Char)} {gs : List UInt16} (h : tail? texts = some gs) :
    Tail texts gs := by
  induction texts generalizing gs with
  | nil =>
      obtain rfl := Option.some.inj h
      exact .groups .nil
  | cons t texts ih =>
      cases texts with
      | nil =>
          unfold tail? at h
          split at h
          next g group =>
            obtain rfl := Option.some.inj h
            exact .groups (.cons (group?_eq_some_iff.mp group) .nil)
          next =>
            obtain ⟨v4, read, rfl⟩ := Option.map_eq_some_iff.mp h
            rw [Ipv4.ofChars?_eq_some_iff.mp read]
            exact .dotted .nil v4
      | cons u texts =>
          obtain ⟨g, group, h⟩ := Option.bind_eq_some_iff.mp h
          obtain ⟨hs, rest, h⟩ := Option.bind_eq_some_iff.mp h
          obtain rfl := Option.some.inj h
          exact (ih rest).cons (group?_eq_some_iff.mp group)

theorem tail?_cons {t : List Char} {g : UInt16} (first : IsGroup t g) {texts : List (List Char)}
    {gs : List UInt16} (rest : tail? texts = some gs) : tail? (t :: texts) = some (g :: gs) := by
  have group := group?_eq_some_iff.mpr first
  cases texts with
  | nil =>
      obtain rfl := Option.some.inj rest
      rw [tail?, group]
  | cons u texts =>
      rw [tail?, group, rest]
      rfl

/-- **A row of groups is read as the grammar has it.** -/
theorem tail?_eq_some_iff {texts : List (List Char)} {gs : List UInt16} :
    tail? texts = some gs ↔ Tail texts gs := by
  refine ⟨tail_of_tail?, fun tail => ?_⟩
  cases tail with
  | groups groups =>
      induction groups with
      | nil => rfl
      | cons first _ ih => exact tail?_cons first ih
  | dotted groups v4 =>
      induction groups with
      | nil => exact tail?_dotted v4
      | cons first _ ih => exact tail?_cons first ih

/-- The text is cut at the gap. -/
theorem eq_append_of_gap? {cs front back : List Char} (h : gap? cs = some (front, back)) :
    cs = front ++ ':' :: ':' :: back := by
  fun_induction gap? cs generalizing front with
  | case1 => cases h
  | case2 => cases h
  | case3 c d cs colons =>
      obtain ⟨rfl, rfl⟩ := Prod.mk.inj (Option.some.inj h)
      rw [colons.1, colons.2]
      rfl
  | case4 c d cs _ ih =>
      obtain ⟨⟨before, behind⟩, found, same⟩ := Option.map_eq_some_iff.mp h
      obtain ⟨rfl, rfl⟩ := Prod.mk.inj same
      rw [ih found]
      rfl

theorem joined_pieces (cs : List Char) : Ipv4.joined ':' (pieces cs) = cs := by
  unfold pieces
  split
  next empty => rw [List.isEmpty_iff.mp empty]; rfl
  next => exact joined_parts ':' cs

theorem pieces_joined {texts : List (List Char)} (solid : ∀ t ∈ texts, ':' ∉ t ∧ t ≠ []) :
    pieces (Ipv4.joined ':' texts) = texts := by
  cases texts with
  | nil => rfl
  | cons t texts =>
      obtain ⟨c, cs, -, begins⟩ := exists_joined_cons (solid t List.mem_cons_self).2 texts
      have filled : (Ipv4.joined ':' (t :: texts)).isEmpty = false := by rw [begins]; rfl
      unfold pieces
      rw [filled]
      exact Ipv4.parts_joined (List.cons_ne_nil t texts) fun u listed => (solid u listed).1

theorem spelled_of_ofChars? {cs : List Char} {a : Ipv6} (h : ofChars? cs = some a) :
    a.Spelled cs := by
  unfold ofChars? at h
  split at h
  next =>
    obtain ⟨gs, read, h⟩ := Option.bind_eq_some_iff.mp h
    obtain ⟨v, eight, h⟩ := Option.bind_eq_some_iff.mp h
    obtain rfl := Option.some.inj h
    rw [vectorOf?_eq_some_iff.mp eight, tail?_eq_some_iff] at read
    rw [← joined_parts ':' cs]
    exact .full read
  next front back gap =>
    obtain ⟨gs, first, h⟩ := Option.bind_eq_some_iff.mp h
    obtain ⟨hs, last, h⟩ := Option.bind_eq_some_iff.mp h
    dsimp only at h
    split at h
    next => cases h
    next few =>
    obtain ⟨v, eight, h⟩ := Option.bind_eq_some_iff.mp h
    obtain rfl := Option.some.inj h
    rw [eq_append_of_gap? gap, ← joined_pieces front, ← joined_pieces back]
    exact .short (traverse?_group?_iff.mp first) (tail?_eq_some_iff.mp last) (by omega)
      (vectorOf?_eq_some_iff.mp eight).symm

/-- **What is read as an IPv6 address is what the grammar has.** -/
theorem ofChars?_eq_some_iff {cs : List Char} {a : Ipv6} : ofChars? cs = some a ↔ a.Spelled cs := by
  refine ⟨spelled_of_ofChars?, fun spelled => ?_⟩
  cases spelled with
  | @full texts groups =>
      have solid := groups.solid
      have filled : texts ≠ [] := by
        rintro rfl
        have eight := groups.length_le
        rw [Vector.length_toList] at eight
        exact absurd eight (by decide)
      have none := gap?_joined (fun t listed => (solid t listed).1)
        (fun t listed => (solid t listed).2) []
      rw [List.append_nil] at none
      unfold ofChars?
      rw [none]
      dsimp only [gap?, Option.map]
      rw [Ipv4.parts_joined filled fun t listed => (solid t listed).1,
        tail?_eq_some_iff.mpr groups]
      show (vectorOf? 8 a.groups.toList >>= _) = _
      rw [vectorOf?_toList]
      rfl
  | @short before behind gs hs zeros first last left split =>
      have solid := (Tail.groups first).solid
      have gap := gap?_joined (fun t listed => (solid t listed).1)
        (fun t listed => (solid t listed).2) (':' :: ':' :: Ipv4.joined ':' behind)
      refine ofChars?_gap gap ?_ ?_ left split
      · show traverse? group? (pieces (Ipv4.joined ':' before ++ [])) = _
        rw [List.append_nil, pieces_joined solid]
        exact traverse?_group?_iff.mpr first
      · show tail? (pieces (Ipv4.joined ':' behind)) = _
        rw [pieces_joined last.solid]
        exact tail?_eq_some_iff.mpr last

/-- Nothing but hexadecimal digits, colons and dots stands in a text of an
address. -/
theorem Spelled.mem {a : Ipv6} {cs : List Char} (spelled : a.Spelled cs) {c : Char} (h : c ∈ cs) :
    c = ':' ∨ c = '.' ∨ (hexValue? c).isSome = true := by
  have row : ∀ {texts : List (List Char)} {gs : List UInt16}, Tail texts gs →
      c ∈ Ipv4.joined ':' texts → c = ':' ∨ c = '.' ∨ (hexValue? c).isSome = true := by
    intro texts gs tail h
    refine (Ipv4.mem_joined h).imp_right ?_
    rintro ⟨t, listed, within⟩
    obtain ⟨g, group⟩ | ⟨v4, rfl⟩ := tail.piece listed
    · exact .inr (group.hex within)
    · exact (Ipv4.mem_toChars within).imp_right hexValue?_of_isDigit
  cases spelled with
  | full groups => exact row groups h
  | short first last =>
      obtain before | h := List.mem_append.mp h
      · exact row (.groups first) before
      · rw [List.mem_cons, List.mem_cons, ← or_assoc, or_self] at h
        exact h.elim .inl (row last)

/-- There is a colon in each text of an address. -/
theorem Spelled.colon_mem {a : Ipv6} {cs : List Char} (spelled : a.Spelled cs) : ':' ∈ cs := by
  cases spelled with
  | full groups =>
      have eight := groups.length_le
      rw [Vector.length_toList] at eight
      exact Ipv4.sep_mem_joined (by omega)
  | short => exact List.mem_append_right _ List.mem_cons_self

end Ipv6

/-! ## §5. Either family. -/

/-- The texts of an address. -/
def IpAddress.Spelled (a : IpAddress) (cs : List Char) : Prop :=
  match a with
  | .v4 a => cs = a.toChars
  | .v6 a => a.Spelled cs

/-- Nothing but hexadecimal digits, colons and dots stands in a text of an
address. -/
theorem IpAddress.Spelled.mem {a : IpAddress} {cs : List Char} (spelled : a.Spelled cs) {c : Char}
    (h : c ∈ cs) : c = ':' ∨ c = '.' ∨ (Ipv6.hexValue? c).isSome = true := by
  cases a with
  | v4 a =>
      obtain rfl : cs = a.toChars := spelled
      exact .inr ((Ipv4.mem_toChars h).imp_right Ipv6.hexValue?_of_isDigit)
  | v6 a => exact Ipv6.Spelled.mem spelled h

/-- **What is read as an address is what the grammar has.** -/
theorem IpAddress.ofChars?_eq_some_iff {cs : List Char} {a : IpAddress} :
    ofChars? cs = some a ↔ a.Spelled cs := by
  unfold ofChars?
  cases v4 : Ipv4.ofChars? cs with
  | some b =>
      have text := Ipv4.ofChars?_eq_some_iff.mp v4
      cases a with
      | v4 a =>
          show some (IpAddress.v4 b) = some (.v4 a) ↔ cs = a.toChars
          rw [← Ipv4.ofChars?_eq_some_iff, v4]
          simp
      | v6 a =>
          show some (IpAddress.v4 b) = some (.v6 a) ↔ a.Spelled cs
          refine ⟨fun h => (by cases h), fun spelled => ?_⟩
          rw [Ipv4.ofChars?_eq_none spelled.colon_mem (by decide) (by decide)] at v4
          cases v4
  | none =>
      cases a with
      | v4 a =>
          show (Ipv6.ofChars? cs).map IpAddress.v6 = some (.v4 a) ↔ cs = a.toChars
          rw [← Ipv4.ofChars?_eq_some_iff, v4]
          simp
      | v6 a =>
          show (Ipv6.ofChars? cs).map IpAddress.v6 = some (.v6 a) ↔ a.Spelled cs
          rw [← Ipv6.ofChars?_eq_some_iff]
          simp

end TunnelControl
