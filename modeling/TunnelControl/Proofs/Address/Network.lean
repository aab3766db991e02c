/-
  TunnelControl.Proofs.Address.Network
  ────────────────────────────────────
  **AN ADDRESS WITH A PREFIX LENGTH IS READ BACK.**

  The two families are told apart by the colon, which stands in each IPv6
  address and in no IPv4 address.  Neither holds a blank or a slash, so the
  text of a prefix is cut where its length begins.

    • `IpAddress.ofChars?_toChars`, `IpAddress.parse_text` — an address,
    • `IpPrefix.parse_text`, `IpPrefix.ofCidr_text`        — an address and a length,
    • `IpPrefix.text_injective`,
    • `prefixes_are_read_back`.
-/
import TunnelControl.Address.Network
import TunnelControl.Proofs.Address.Ipv6
import TunnelControl.Proofs.Outcomes
import TunnelControl.Proofs.Text.Trim

namespace TunnelControl

/-! ## §1. Addresses. -/

namespace IpAddress

/-- **The text of an address is read as that address.** -/
theorem ofChars?_toChars (a : IpAddress) : ofChars? a.toChars = some a := by
  unfold ofChars? toChars
  cases a with
  | v4 a =>
      dsimp only
      rw [Ipv4.ofChars?_toChars]
  | v6 a =>
      have other : Ipv4.ofChars? a.toChars = none :=
        Ipv4.ofChars?_eq_none a.colon_mem_toChars (by decide) (by decide)
      dsimp only
      rw [other]
      dsimp only
      rw [Ipv6.ofChars?_toChars]
      rfl

/-- Nothing but hexadecimal digits, colons and dots stands in an address. -/
theorem mem_toChars {a : IpAddress} {c : Char} (h : c ∈ a.toChars) :
    c = ':' ∨ c = '.' ∨ (Ipv6.hexValue? c).isSome = true := by
  cases a with
  | v4 a => exact .inr ((Ipv4.mem_toChars h).imp_right Ipv6.hexValue?_of_isDigit)
  | v6 a => exact Ipv6.mem_toChars h

theorem slash_not_mem_toChars (a : IpAddress) : '/' ∉ a.toChars := by
  intro listed
  obtain colon | dot | hex := mem_toChars listed
  · exact absurd colon (by decide)
  · exact absurd dot (by decide)
  · exact absurd hex (by decide)

theorem isBlank_of_hexValue? {c : Char} (h : (Ipv6.hexValue? c).isSome = true) :
    Text.isBlank c = false := by
  have range : (48 ≤ c.toNat ∧ c.toNat ≤ 57) ∨ (97 ≤ c.toNat ∧ c.toNat ≤ 102)
      ∨ (65 ≤ c.toNat ∧ c.toNat ≤ 70) := by
    unfold Ipv6.hexValue? at h
    split at h
    next digit => exact .inl digit
    next =>
    split at h
    next lower => exact .inr (.inl lower)
    next =>
    split at h
    next upper => exact .inr (.inr upper)
    next => cases h
  exact Text.isBlank_of_visible (by omega) (by omega)

theorem isBlank_of_mem_toChars {a : IpAddress} {c : Char} (h : c ∈ a.toChars) :
    Text.isBlank c = false := by
  obtain rfl | rfl | hex := mem_toChars h
  · decide
  · decide
  · exact isBlank_of_hexValue? hex

theorem parse_text (a : IpAddress) : parse a.text = .ok a := by
  unfold parse text
  rw [String.toList_ofList, Text.trimChars_of_no_blank fun _ => isBlank_of_mem_toChars,
    ofChars?_toChars]

end IpAddress

/-! ## §2. Prefixes. -/

namespace IpPrefix

theorem of_length (p : IpPrefix) : of p.address p.length = .ok p := dif_pos p.length_le

/-- An address and a length are read as the prefix that they make up. -/
theorem parse_text (p : IpPrefix) : parse p.address.text p.length = .ok p := by
  unfold parse
  rw [IpAddress.parse_text]
  exact p.of_length

/-- A prefix length takes one byte. -/
theorem length_le_255 (p : IpPrefix) : p.length ≤ 255 := by
  have width : p.address.width ≤ 255 := by
    cases p.address with
    | v4 a => show 32 ≤ 255; decide
    | v6 a => show 128 ≤ 255; decide
  exact Nat.le_trans p.length_le width

theorem toList_text (p : IpPrefix) :
    p.text.toList = p.address.toChars ++ '/' :: Text.decimal p.length := by
  unfold text IpAddress.text Text.ofNat
  simp

theorem isBlank_of_mem_text {p : IpPrefix} {c : Char} (h : c ∈ p.text.toList) :
    Text.isBlank c = false := by
  rw [toList_text] at h
  obtain address | rest := List.mem_append.mp h
  · exact IpAddress.isBlank_of_mem_toChars address
  · obtain rfl | digit := List.mem_cons.mp rest
    · decide
    · exact Text.isBlank_of_isDigit (Text.isDigit_of_mem_decimal digit)

/-- **The text of a prefix is read as that prefix.** -/
theorem ofCidr_text (p : IpPrefix) : ofCidr p.text = .ok p := by
  -- there are no blanks to trim, neither around the whole nor around the length
  have whole : Text.trimChars p.text.toList = p.address.toChars ++ '/' :: Text.decimal p.length := by
    rw [Text.trimChars_of_no_blank fun _ => isBlank_of_mem_text, toList_text]
  have digits : Text.trimChars (Text.decimal p.length) = Text.decimal p.length :=
    Text.trimChars_of_no_blank fun _ listed =>
      Text.isBlank_of_isDigit (Text.isDigit_of_mem_decimal listed)
  unfold ofCidr
  dsimp only
  rw [whole, Text.cut?_append p.address.slash_not_mem_toChars]
  dsimp only
  rw [digits, ← Text.ofNat, Text.naturalUpTo?_ofNat p.length_le_255]
  dsimp only
  rw [← IpAddress.text, parse_text]

/-- Prefixes that are written alike are the same. -/
theorem text_injective {p q : IpPrefix} (same : p.text = q.text) : p = q := by
  have read : Except.ok p = ofCidr q.text := by rw [← same, ofCidr_text]
  rw [ofCidr_text] at read
  exact Except.ok.inj read

end IpPrefix

/-! ## §3. The main result. -/

/-- The two ways in which a prefix is written and read. -/
structure IpPrefix.ReadBack (p : IpPrefix) : Prop where
  /-- As one text. -/
  whole : IpPrefix.ofCidr p.text = .ok p
  /-- As the text of its address and its length. -/
  inParts : IpPrefix.parse p.address.text p.length = .ok p
  /-- No other prefix has that text. -/
  alone : ∀ q : IpPrefix, q.text = p.text → q = p

/-- **Each prefix is read back from its text**, so the text by which an
accepted one is replaced stays as it is. -/
theorem prefixes_are_read_back :
    (∀ p : IpPrefix, p.ReadBack)
      ∧ ∀ input normal : String, (IpPrefix.ofCidr input).map IpPrefix.text = .ok normal →
          (IpPrefix.ofCidr normal).map IpPrefix.text = .ok normal := by
  constructor
  · intro p
    exact ⟨p.ofCidr_text, p.parse_text, fun _ => IpPrefix.text_injective⟩
  · intro input normal accepted
    obtain ⟨p, -, rfl⟩ := map_eq_ok_iff.mp accepted
    rw [IpPrefix.ofCidr_text]
    rfl

/-- Blanks, capital letters, a sign and leading zeros are read and not written;
of two longest runs of zeros the first is left out. -/
theorem prefix_in_unusual_form_is_replaced :
    let normal := "2001:db8::1:0:0:1/64"
    (IpPrefix.ofCidr " 2001:DB8:0:0:1:0:0:1 / +064 ").map IpPrefix.text = .ok normal
      ∧ (IpPrefix.ofCidr normal).map IpPrefix.text = .ok normal := by
  intro normal
  have accepted : (IpPrefix.ofCidr " 2001:DB8:0:0:1:0:0:1 / +064 ").map IpPrefix.text
      = .ok normal := rfl
  exact ⟨accepted, prefixes_are_read_back.2 _ _ accepted⟩

end TunnelControl
