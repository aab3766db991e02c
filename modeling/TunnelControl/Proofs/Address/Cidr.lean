/-
  TunnelControl.Proofs.Address.Cidr
  ─────────────────────────────────
  **THE TEXTS THAT ARE ADDRESSES WITH A PREFIX LENGTH.**

  A text is cut at its first slash.  In front of it stands an address, behind
  it a numeral of one byte, and there may be blanks around each of the two and
  around the whole.  Without a slash the whole is an address.  Only when both
  parts can be read does the width of the address matter.

    • `Text.Numeral`, `Text.natural?_eq_some_iff` — the numerals,
    • `Text.Padded`, `Text.padded_iff`            — blanks around something,
    • `Cidr`                                      — the grammar,
    • `ofCidr_of_cidr`, `ofCidr_of_not_cidr`      — what is read of a text,
    • `cidr_texts_are_read_exactly`.
-/
import TunnelControl.Proofs.Address.Network
import TunnelControl.Proofs.Address.Spelling

namespace TunnelControl

/-! ## §1. Numerals. -/

namespace Text

/-- Digits, behind a plus sign or none, that make up a number. -/
inductive Numeral : List Char → Nat → Prop where
  | plain {digits : List Char} (filled : digits ≠ []) (all : ∀ c ∈ digits, isDigit c = true) :
      Numeral digits (Nat.ofDigitChars 10 digits 0)
  | signed {digits : List Char} (filled : digits ≠ []) (all : ∀ c ∈ digits, isDigit c = true) :
      Numeral ('+' :: digits) (Nat.ofDigitChars 10 digits 0)

/-- **What is read as a number is a numeral of it.** -/
theorem natural?_eq_some_iff {cs : List Char} {n : Nat} : natural? cs = some n ↔ Numeral cs n := by
  constructor
  · intro h
    unfold natural? at h
    split at h
    next digits =>
      obtain ⟨filled, all, rfl⟩ := digits?_eq_some_iff.mp h
      exact .signed filled all
    next =>
      obtain ⟨filled, all, rfl⟩ := digits?_eq_some_iff.mp h
      exact .plain filled all
  · intro numeral
    cases numeral with
    | signed filled all => exact digits?_eq_some_iff.mpr ⟨filled, all, rfl⟩
    | plain filled all =>
        unfold natural?
        split
        next digits => exact absurd (all '+' List.mem_cons_self) (by decide)
        next => exact digits?_eq_some_iff.mpr ⟨filled, all, rfl⟩

theorem Numeral.isBlank {cs : List Char} {n : Nat} (numeral : Numeral cs n) :
    ∀ c ∈ cs, isBlank c = false := by
  intro c listed
  cases numeral with
  | plain _ all => exact isBlank_of_isDigit (all c listed)
  | signed _ all =>
      obtain rfl | digit := List.mem_cons.mp listed
      · decide
      · exact isBlank_of_isDigit (all c digit)

theorem naturalUpTo?_eq_some_iff {bound n : Nat} {s : String} :
    naturalUpTo? bound s = some n ↔ Numeral s.toList n ∧ n ≤ bound := by
  unfold naturalUpTo?
  rw [Option.filter_eq_some_iff, natural?_eq_some_iff, decide_eq_true_iff]

/-! ## §2. Blanks around something. -/

/-- Something of a kind, with blanks around it or none. -/
def Padded (P : List Char → Prop) (cs : List Char) : Prop :=
  ∃ front core back : List Char, front.all isBlank = true ∧ back.all isBlank = true
    ∧ cs = front ++ core ++ back ∧ P core

/-- **What is left when blanks are trimmed is of the kind**, if nothing of the
kind holds blanks. -/
theorem padded_iff {P : List Char → Prop} (solid : ∀ cs, P cs → ∀ c ∈ cs, isBlank c = false)
    {cs : List Char} : Padded P cs ↔ P (trimChars cs) := by
  constructor
  · rintro ⟨front, core, back, hfront, hback, rfl, h⟩
    rw [trimChars_between core hfront hback, trimChars_of_no_blank (solid core h)]
    exact h
  · intro h
    obtain ⟨front, back, hfront, hback, split⟩ := (trimsTo_trim (String.ofList cs)).between
    rw [trim, String.toList_ofList, String.toList_ofList] at split
    exact ⟨front, trimChars cs, back, hfront, hback, split, h⟩

end Text

theorem IpAddress.Spelled.isBlank {a : IpAddress} {cs : List Char} (spelled : a.Spelled cs) :
    ∀ c ∈ cs, Text.isBlank c = false := by
  intro c listed
  obtain rfl | rfl | hex := spelled.mem listed
  · decide
  · decide
  · exact isBlank_of_hexValue? hex

/-! ## §3. The grammar. -/

/-- A text that is an address, or an address, a slash and the number of bits
that name the network. -/
inductive Cidr : List Char → IpAddress → Option Nat → Prop where
  /-- An address and no slash. -/
  | bare {cs : List Char} {a : IpAddress} (noSlash : '/' ∉ cs) (address : a.Spelled cs) :
      Cidr cs a none
  /-- An address, the first slash, and a numeral of one byte. -/
  | sized {front back : List Char} {a : IpAddress} {n : Nat} (first : '/' ∉ front)
      (address : Text.Padded a.Spelled front) (numeral : Text.Padded (Text.Numeral · n) back)
      (byte : n ≤ 255) : Cidr (front ++ '/' :: back) a (some n)

namespace IpPrefix

variable {input : String}

/-! ## §4. The reader. -/

theorem cut?_trim (input : String) :
    Text.cut? '/' (Text.trimChars input.toList) = Text.cut? '/' (Text.trim input).toList := by
  rw [Text.trim, String.toList_ofList]

/-- What is answered when both parts can be read. -/
def judged (t : String) (a : IpAddress) (size : Option Nat) : Except AddressError IpPrefix :=
  if fits : size.getD a.width ≤ a.width then .ok ⟨a, size.getD a.width, fits⟩
  else .error (.tooLong t (size.getD a.width))

theorem judged_none (t : String) (a : IpAddress) : judged t a none = .ok (host a) :=
  dif_pos (Nat.le_refl a.width)

theorem judged_some (t : String) (a : IpAddress) (n : Nat) :
    judged t a (some n) = if fits : n ≤ a.width then .ok ⟨a, n, fits⟩ else .error (.tooLong t n) :=
  rfl

/-- **A text of the grammar is answered by whether its length fits.** -/
theorem ofCidr_of_cidr {a : IpAddress} {size : Option Nat}
    (cidr : Cidr (Text.trim input).toList a size) :
    ofCidr input = judged (Text.trim input) a size := by
  generalize hcs : (Text.trim input).toList = cs at cidr
  unfold ofCidr
  dsimp only
  rw [cut?_trim, hcs]
  cases cidr with
  | bare noSlash address =>
      have again := congrArg String.toList (Text.trim_trim input)
      rw [Text.trim, String.toList_ofList, hcs] at again
      rw [Text.cut?_eq_none_iff.mpr noSlash]
      show (IpAddress.parse (Text.trim input)).map host = _
      rw [IpAddress.parse, hcs, again, IpAddress.ofChars?_eq_some_iff.mpr address, judged_none]
      rfl
  | @sized front back _ n first address numeral byte =>
      rw [Text.padded_iff fun _ => IpAddress.Spelled.isBlank] at address
      rw [Text.padded_iff fun _ => Text.Numeral.isBlank] at numeral
      have number : Text.naturalUpTo? 255 (String.ofList (Text.trimChars back)) = some n := by
        rw [Text.naturalUpTo?_eq_some_iff, String.toList_ofList]
        exact ⟨numeral, byte⟩
      have read : parse (String.ofList front) n = of a n := by
        rw [parse, IpAddress.parse, String.toList_ofList,
          IpAddress.ofChars?_eq_some_iff.mpr address]
        rfl
      rw [Text.cut?_append first]
      dsimp only
      rw [number]
      dsimp only
      rw [read, judged_some]
      unfold of
      by_cases fits : n ≤ a.width
      · simp only [dif_pos fits]
      · simp only [dif_neg fits]
        rfl

/-- **A text that is not of the grammar is no address.** -/
theorem ofCidr_of_not_cidr (other : ∀ a size, ¬ Cidr (Text.trim input).toList a size) :
    ∃ quoted, ofCidr input = .error (.invalid quoted) := by
  generalize hcs : (Text.trim input).toList = cs at other
  unfold ofCidr
  dsimp only
  rw [cut?_trim, hcs]
  cases cut : Text.cut? '/' cs with
  | none =>
      have again := congrArg String.toList (Text.trim_trim input)
      rw [Text.trim, String.toList_ofList, hcs] at again
      show ∃ quoted, (IpAddress.parse (Text.trim input)).map host = _
      rw [IpAddress.parse, hcs, again]
      cases read : IpAddress.ofChars? cs with
      | none => exact ⟨_, rfl⟩
      | some a =>
          exact absurd (.bare (Text.cut?_eq_none_iff.mp cut) (IpAddress.ofChars?_eq_some_iff.mp read))
            (other a none)
  | some r =>
      obtain ⟨front, back⟩ := r
      obtain ⟨rfl, first⟩ := Text.cut?_eq_some_iff.mp cut
      dsimp only
      cases number : Text.naturalUpTo? 255 (String.ofList (Text.trimChars back)) with
      | none => exact ⟨_, rfl⟩
      | some n =>
          dsimp only
          rw [parse, IpAddress.parse, String.toList_ofList]
          cases read : IpAddress.ofChars? (Text.trimChars front) with
          | none => exact ⟨_, rfl⟩
          | some a =>
              rw [Text.naturalUpTo?_eq_some_iff, String.toList_ofList] at number
              rw [IpAddress.ofChars?_eq_some_iff] at read
              exact absurd (.sized first
                ((Text.padded_iff fun _ => IpAddress.Spelled.isBlank).mpr read)
                ((Text.padded_iff fun _ => Text.Numeral.isBlank).mpr number.1) number.2)
                (other a (some n))

/-- A text is judged by its parts, or is no address. -/
theorem ofCidr_cases (input : String) :
    (∃ a size, Cidr (Text.trim input).toList a size
        ∧ ofCidr input = judged (Text.trim input) a size)
      ∨ (∀ a size, ¬ Cidr (Text.trim input).toList a size)
        ∧ ∃ quoted, ofCidr input = .error (.invalid quoted) := by
  by_cases cidr : ∃ a size, Cidr (Text.trim input).toList a size
  · obtain ⟨a, size, cidr⟩ := cidr
    exact .inl ⟨a, size, cidr, ofCidr_of_cidr cidr⟩
  · have other : ∀ a size, ¬ Cidr (Text.trim input).toList a size :=
      fun a size h => cidr ⟨a, size, h⟩
    exact .inr ⟨other, ofCidr_of_not_cidr other⟩

/-- Blanks around a text do not matter. -/
theorem ofCidr_padded {front back : List Char} (hfront : front.all Text.isBlank = true)
    (hback : back.all Text.isBlank = true) :
    ofCidr (String.ofList (front ++ input.toList ++ back)) = ofCidr input := by
  unfold ofCidr
  rw [String.toList_ofList, Text.trimChars_between input.toList hfront hback]

theorem judged_eq_ok_iff {t : String} {a : IpAddress} {size : Option Nat} {p : IpPrefix} :
    judged t a size = .ok p ↔ p.address = a ∧ p.length = size.getD a.width := by
  unfold judged
  constructor
  · intro h
    split at h
    next =>
      rw [← Except.ok.inj h]
      exact ⟨rfl, rfl⟩
    next => cases h
  · obtain ⟨b, n, fits⟩ := p
    rintro ⟨address, length⟩
    obtain rfl : b = a := address
    obtain rfl : n = size.getD b.width := length
    exact dif_pos fits

theorem judged_eq_tooLong_iff {t quoted : String} {a : IpAddress} {size : Option Nat} {n : Nat} :
    judged t a size = .error (.tooLong quoted n) ↔ quoted = t ∧ size = some n ∧ a.width < n := by
  unfold judged
  constructor
  · intro h
    split at h
    next => cases h
    next long =>
      obtain ⟨rfl, rfl⟩ := AddressError.tooLong.inj (Except.error.inj h)
      cases size with
      | none => exact absurd (Nat.le_refl _) long
      | some n => exact ⟨rfl, rfl, Nat.lt_of_not_le long⟩
  · rintro ⟨rfl, rfl, long⟩
    exact dif_neg (Nat.not_le_of_lt long)

theorem judged_ne_invalid {t quoted : String} {a : IpAddress} {size : Option Nat} :
    judged t a size ≠ .error (.invalid quoted) := by
  unfold judged
  split <;> simp

/-! ## §5. The main result. -/

/-- How a text is answered, of which `t` stands between the outer blanks. -/
structure ReadsCidr (input t : String) : Prop where
  /-- The text without its outer blanks. -/
  trimmed : Text.TrimsTo input t
  /-- It is accepted exactly if it is an address, maybe with a length that fits;
  the length is that of the prefix, and a bare address is a host. -/
  accepted : ∀ p : IpPrefix, ofCidr input = .ok p
    ↔ ∃ size, Cidr t.toList p.address size ∧ p.length = size.getD p.address.width
  /-- A length that is too large is told exactly if both parts can be read. -/
  tooLong : ∀ quoted n, ofCidr input = .error (.tooLong quoted n)
    ↔ quoted = t ∧ ∃ a, Cidr t.toList a (some n) ∧ a.width < n
  /-- All other texts are no addresses. -/
  invalid : (∃ quoted, ofCidr input = .error (.invalid quoted)) ↔ ∀ a size, ¬ Cidr t.toList a size
  /-- Further blanks around it change nothing. -/
  padded : ∀ front back : List Char, front.all Text.isBlank = true →
    back.all Text.isBlank = true →
    ofCidr (String.ofList (front ++ input.toList ++ back)) = ofCidr input

end IpPrefix

/-- **The texts that are accepted are those of the grammar**, and each other one
is answered by what is wrong with it. -/
theorem cidr_texts_are_read_exactly (input : String) : ∃ t, IpPrefix.ReadsCidr input t := by
  refine ⟨Text.trim input, ?_⟩
  constructor
  case trimmed => exact Text.trimsTo_trim input
  case accepted =>
    intro p
    constructor
    · intro accepted
      obtain ⟨a, size, cidr, answer⟩ | ⟨-, quoted, answer⟩ := IpPrefix.ofCidr_cases input
      · rw [answer, IpPrefix.judged_eq_ok_iff] at accepted
        obtain ⟨rfl, length⟩ := accepted
        exact ⟨size, cidr, length⟩
      · rw [answer] at accepted
        cases accepted
    · rintro ⟨size, cidr, length⟩
      rw [IpPrefix.ofCidr_of_cidr cidr, IpPrefix.judged_eq_ok_iff]
      exact ⟨rfl, length⟩
  case tooLong =>
    intro quoted n
    constructor
    · intro refused
      obtain ⟨a, size, cidr, answer⟩ | ⟨-, quoted', answer⟩ := IpPrefix.ofCidr_cases input
      · rw [answer, IpPrefix.judged_eq_tooLong_iff] at refused
        obtain ⟨rfl, rfl, long⟩ := refused
        exact ⟨rfl, a, cidr, long⟩
      · rw [answer] at refused
        cases refused
    · rintro ⟨rfl, a, cidr, long⟩
      rw [IpPrefix.ofCidr_of_cidr cidr, IpPrefix.judged_eq_tooLong_iff]
      exact ⟨rfl, rfl, long⟩
  case invalid =>
    constructor
    · rintro ⟨quoted, refused⟩ a size cidr
      rw [IpPrefix.ofCidr_of_cidr cidr] at refused
      exact IpPrefix.judged_ne_invalid refused
    · exact IpPrefix.ofCidr_of_not_cidr
  case padded => exact fun _ _ => IpPrefix.ofCidr_padded

/-- Of two slashes the first one counts, a sign and zeros in front do not matter,
and what takes more than a byte is no length at all. -/
example :
    ((IpPrefix.ofCidr " 10.0.0.1 / +008\t").map IpPrefix.text,
      (IpPrefix.ofCidr "10.0.0.1/8/9").map IpPrefix.text,
      (IpPrefix.ofCidr "10.0.0.1/255").map IpPrefix.text,
      (IpPrefix.ofCidr "10.0.0.1/256").map IpPrefix.text)
      = (.ok "10.0.0.1/8", .error (.invalid "10.0.0.1/8/9"),
        .error (.tooLong "10.0.0.1/255" 255), .error (.invalid "10.0.0.1/256")) := by
  rfl

end TunnelControl
