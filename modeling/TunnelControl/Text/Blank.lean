/-
  TunnelControl.Text.Blank
  ────────────────────────
  **BLANK CHARACTERS AND TRIMMING.**

  Every text that a person types (an endpoint, an address, a duration) is
  read with its outer blanks removed.  "Blank" is the Unicode property
  White_Space, so a no-break space counts and a zero-width space does not.

    • `isBlank`     — the property, character by character,
    • `trim`        — a text without its outer blanks,
    • `isBlankText` — nothing is left after trimming.
-/
namespace TunnelControl.Text

/-! ## §1. The property. -/

/-- The characters with the Unicode property White_Space. -/
def isBlank (c : Char) : Bool :=
  let n := c.toNat
  (9 ≤ n && n ≤ 13) || n == 0x20 || n == 0x85 || n == 0xA0 || n == 0x1680
    || (0x2000 ≤ n && n ≤ 0x200A) || n == 0x2028 || n == 0x2029 || n == 0x202F
    || n == 0x205F || n == 0x3000

/-! ## §2. Trimming. -/

/-- Drops the blanks at the end. -/
def trimRight (cs : List Char) : List Char :=
  (cs.reverse.dropWhile isBlank).reverse

/-- Drops the blanks at both ends. -/
def trimChars (cs : List Char) : List Char :=
  trimRight (cs.dropWhile isBlank)

/-- The text without the blanks at its ends. -/
def trim (s : String) : String :=
  String.ofList (trimChars s.toList)

/-- A text of blanks only; the empty text is one. -/
def isBlankText (s : String) : Bool :=
  s.toList.all isBlank

@[simp] theorem trimChars_nil : trimChars [] = [] := rfl

theorem dropWhile_of_all {cs : List Char} (h : cs.all isBlank = true) :
    cs.dropWhile isBlank = [] := by
  induction cs with
  | nil => rfl
  | cons c cs ih =>
      simp only [List.all_cons, Bool.and_eq_true] at h
      simp [h.1, ih h.2]

/-- A blank text trims to nothing. -/
theorem trim_of_isBlankText {s : String} (h : isBlankText s = true) : trim s = "" := by
  have : s.toList.dropWhile isBlank = [] := dropWhile_of_all h
  simp [trim, trimChars, this, trimRight]

end TunnelControl.Text
