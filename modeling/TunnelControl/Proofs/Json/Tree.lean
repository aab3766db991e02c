/-
  TunnelControl.Proofs.Json.Tree
  ──────────────────────────────
  **EVERY TEXT THAT THE GRAMMAR ALLOWS.**

  A reader meets texts that others have written: with escapes of their own
  choice, numbers of any size, members that nobody knows.  A tree is such a
  text without its blanks: words and strings stand as they are spelled, and
  what is no word or string cannot be in it.

    • `Word`, `Quotable`      — the words, and what may stand between quotes,
    • `Tree`                  — a value with its spelling,
    • `Writes`, `WritesItems`, `WritesMembers` — the texts of a tree,
    • `Tree.IsText`           — a whole text, with blanks at both ends,
    • `Writes.head`, `writes_compact`.
-/
import TunnelControl.Proofs.Json.Layout

namespace TunnelControl.Json

/-! ## §1. Words and strings. -/

/-- A hexadecimal digit of either case. -/
def IsHex (c : Char) : Prop :=
  ('0' ≤ c ∧ c ≤ '9') ∨ ('a' ≤ c ∧ c ≤ 'f') ∨ ('A' ≤ c ∧ c ≤ 'F')

/-- What may stand between the quotes of a string.  A surrogate may stand
alone here. -/
inductive Quotable : List Char → Prop where
  /-- Nothing. -/
  | nil : Quotable []
  /-- A character for itself. -/
  | plain {c : Char} {cs : List Char} (quote : c ≠ '"') (slash : c ≠ '\\')
      (printable : 0x20 ≤ c.toNat) (more : Quotable cs) : Quotable (c :: cs)
  /-- An escape of one letter. -/
  | short {c : Char} {cs : List Char} (letter : c ∈ ['"', '\\', '/', 'b', 'f', 'n', 'r', 't'])
      (more : Quotable cs) : Quotable ('\\' :: c :: cs)
  /-- An escape by a code. -/
  | code {a b c d : Char} {cs : List Char} (hex : IsHex a ∧ IsHex b ∧ IsHex c ∧ IsHex d)
      (more : Quotable cs) : Quotable ('\\' :: 'u' :: a :: b :: c :: d :: cs)

/-- The digits after a point, if there are any. -/
inductive Fraction : List Char → Prop where
  /-- No point. -/
  | none : Fraction []
  /-- A point with its digits. -/
  | some {ds : List Char} (digits : Digits ds) : Fraction ('.' :: ds)

/-- The exponent of a number, if there is one. -/
inductive Power : List Char → Prop where
  /-- No exponent. -/
  | none : Power []
  /-- An exponent with its digits. -/
  | some {mark : Char} {sign ds : List Char} (marks : mark = 'e' ∨ mark = 'E')
      (signs : sign = [] ∨ sign = ['+'] ∨ sign = ['-']) (digits : Digits ds) :
      Power (mark :: (sign ++ ds))

/-- A number without its sign, of any size. -/
inductive Magnitude : List Char → Prop where
  /-- Digits, a fraction and an exponent. -/
  | mk {ds fs ps : List Char} (whole : Whole ds) (fraction : Fraction fs) (power : Power ps) :
      Magnitude (ds ++ (fs ++ ps))

/-- A literal or a number. -/
inductive Word : List Char → Prop where
  /-- The literal `null`. -/
  | null : Word ['n', 'u', 'l', 'l']
  /-- The literal `true`. -/
  | yes : Word ['t', 'r', 'u', 'e']
  /-- The literal `false`. -/
  | no : Word ['f', 'a', 'l', 's', 'e']
  /-- A number without sign. -/
  | number {cs : List Char} (magnitude : Magnitude cs) : Word cs
  /-- A number with a sign. -/
  | signed {cs : List Char} (magnitude : Magnitude cs) : Word ('-' :: cs)

/-! ## §2. Trees and their texts. -/

/-- A word as it is spelled. -/
structure Token where
  /-- Its characters. -/
  chars : List Char
  /-- They are a word. -/
  word : Word chars

/-- A string as it is spelled. -/
structure Quoted where
  /-- What stands between the quotes. -/
  inside : List Char
  /-- It may stand there. -/
  quotable : Quotable inside

/-- The string with its quotes. -/
def Quoted.chars (s : Quoted) : List Char := '"' :: (s.inside ++ ['"'])

theorem Quoted.chars_append (s : Quoted) (rest : List Char) :
    s.chars ++ rest = '"' :: (s.inside ++ '"' :: rest) := by
  simp [chars]

/-- A value with the spelling of its words and strings. -/
inductive Tree where
  | word (w : Token)
  | text (s : Quoted)
  | sequence (items : List Tree)
  | record (members : List (Quoted × Tree))

mutual

/-- A text is one of a tree. -/
inductive Writes : Tree → List Char → Prop where
  /-- A word. -/
  | word (w : Token) : Writes (.word w) w.chars
  /-- A string. -/
  | text (s : Quoted) : Writes (.text s) s.chars
  /-- An array. -/
  | sequence {ts : List Tree} {cs : List Char} (items : WritesItems true ts cs) :
      Writes (.sequence ts) ('[' :: cs)
  /-- An object. -/
  | record {ms : List (Quoted × Tree)} {cs : List Char} (members : WritesMembers true ms cs) :
      Writes (.record ms) (Char.ofNat 0x7B :: cs)

/-- A text is one of the elements of an array, up to its end; the flag says
whether the first of them is the first of the array. -/
inductive WritesItems : Bool → List Tree → List Char → Prop where
  /-- The closing bracket. -/
  | close {first : Bool} {ws : List Char} (blank : Spaces ws) : WritesItems first [] (ws ++ [']'])
  /-- An element and what follows. -/
  | item {first : Bool} {t : Tree} {ts : List Tree} {lead cs rest : List Char}
      (before : Lead first lead) (element : Writes t cs) (more : WritesItems false ts rest) :
      WritesItems first (t :: ts) (lead ++ (cs ++ rest))

/-- A text is one of the members of an object, up to its end. -/
inductive WritesMembers : Bool → List (Quoted × Tree) → List Char → Prop where
  /-- The closing brace. -/
  | close {first : Bool} {ws : List Char} (blank : Spaces ws) :
      WritesMembers first [] (ws ++ [Char.ofNat 0x7D])
  /-- A member and what follows. -/
  | member {first : Bool} {k : Quoted} {t : Tree} {ms : List (Quoted × Tree)}
      {lead ws ws' cs rest : List Char} (before : Lead first lead) (left : Spaces ws)
      (right : Spaces ws') (value : Writes t cs) (more : WritesMembers false ms rest) :
      WritesMembers first ((k, t) :: ms)
        (lead ++ (k.chars ++ (ws ++ ':' :: (ws' ++ (cs ++ rest)))))

end

/-- A whole text: the tree with blanks at both ends. -/
def Tree.IsText (t : Tree) (body : String) : Prop :=
  ∃ ws cs ws', Spaces ws ∧ Writes t cs ∧ Spaces ws' ∧ body.toList = ws ++ (cs ++ ws')

/-! ## §3. How a text begins and ends. -/

theorem Magnitude.head {cs : List Char} (h : Magnitude cs) :
    ∃ c rest, cs = c :: rest ∧ Text.isDigit c = true := by
  cases h with
  | @mk ds fs ps whole =>
      obtain ⟨c, rest, rfl, digit⟩ := whole.head
      exact ⟨c, rest ++ (fs ++ ps), rfl, digit⟩

/-- A word is a literal, or begins as a number does. -/
theorem Token.literal_or_number (w : Token) : w.chars = ['n', 'u', 'l', 'l']
    ∨ w.chars = ['t', 'r', 'u', 'e'] ∨ w.chars = ['f', 'a', 'l', 's', 'e']
    ∨ ∃ c rest, w.chars = c :: rest ∧ (c = '-' ∨ Text.isDigit c = true) := by
  obtain ⟨chars, word⟩ := w
  cases word with
  | null => exact .inl rfl
  | yes => exact .inr (.inl rfl)
  | no => exact .inr (.inr (.inl rfl))
  | number magnitude =>
      obtain ⟨c, rest, he, digit⟩ := magnitude.head
      exact .inr (.inr (.inr ⟨c, rest, he, .inr digit⟩))
  | signed => exact .inr (.inr (.inr ⟨'-', _, rfl, .inl rfl⟩))

/-- A word has one text. -/
theorem Writes.word_eq {w : Token} {u : List Char} (h : Writes (.word w) u) : u = w.chars := by
  cases h
  rfl

/-- What a text begins with tells the kind of its tree. -/
inductive Head : Tree → Char → Prop where
  /-- A letter, a sign or a digit. -/
  | word {w : Token} {c : Char}
      (first : c ∈ ['n', 't', 'f'] ∨ c = '-' ∨ Text.isDigit c = true) : Head (.word w) c
  /-- A quote. -/
  | text {s : Quoted} : Head (.text s) '"'
  /-- A bracket. -/
  | sequence {ts : List Tree} : Head (.sequence ts) '['
  /-- A brace. -/
  | record {ms : List (Quoted × Tree)} : Head (.record ms) (Char.ofNat 0x7B)

theorem Writes.head {t : Tree} {cs : List Char} (h : Writes t cs) :
    ∃ c rest, cs = c :: rest ∧ Head t c := by
  cases h with
  | word w =>
      rcases w.literal_or_number with he | he | he | ⟨c, rest, he, head⟩
      · exact ⟨'n', _, he, .word (.inl (by decide))⟩
      · exact ⟨'t', _, he, .word (.inl (by decide))⟩
      · exact ⟨'f', _, he, .word (.inl (by decide))⟩
      · exact ⟨c, rest, he, .word (.inr head)⟩
  | text => exact ⟨_, _, rfl, .text⟩
  | sequence => exact ⟨_, _, rfl, .sequence⟩
  | record => exact ⟨_, _, rfl, .record⟩

/-- A word begins with none of the characters that begin something else, end it
or stand between. -/
theorem wordHead_ne {c d : Char} (h : c ∈ ['n', 't', 'f'] ∨ c = '-' ∨ Text.isDigit c = true)
    (other : d ∉ ['n', 't', 'f'] ∧ d ≠ '-' ∧ Text.isDigit d = false) : c ≠ d := by
  rintro rfl
  rcases h with letter | number
  · exact other.1 letter
  · exact numberHead_ne number other.2 rfl

/-- No text begins with a blank or with a mark that closes or separates. -/
theorem Head.ne {t : Tree} {c : Char} (h : Head t c) :
    isSpace c = false ∧ c ≠ ']' ∧ c ≠ ',' ∧ c ≠ Char.ofNat 0x7D := by
  cases h with
  | word first =>
      have space := wordHead_ne (d := ' ') first (by decide)
      have newline := wordHead_ne (d := '\n') first (by decide)
      have carriage := wordHead_ne (d := '\r') first (by decide)
      have tab := wordHead_ne (d := '\t') first (by decide)
      refine ⟨by simp [isSpace, space, newline, carriage, tab], wordHead_ne first (by decide),
        wordHead_ne first (by decide), wordHead_ne first (by decide)⟩
  | text => decide
  | sequence => decide
  | record => decide

/-- Only a string begins with a quote. -/
theorem Head.ne_quote {t : Tree} {c : Char} (h : Head t c) (other : ∀ s, t ≠ .text s) :
    c ≠ '"' := by
  cases h with
  | word first => exact wordHead_ne first (by decide)
  | text => exact absurd rfl (other _)
  | sequence => decide
  | record => decide

/-- Only an array begins with a bracket. -/
theorem Head.ne_bracket {t : Tree} {c : Char} (h : Head t c) (other : ∀ ts, t ≠ .sequence ts) :
    c ≠ '[' := by
  cases h with
  | word first => exact wordHead_ne first (by decide)
  | text => decide
  | sequence => exact absurd rfl (other _)
  | record => decide

/-- Only an object begins with a brace. -/
theorem Head.ne_brace {t : Tree} {c : Char} (h : Head t c) (other : ∀ ms, t ≠ .record ms) :
    c ≠ Char.ofNat 0x7B := by
  cases h with
  | word first => exact wordHead_ne first (by decide)
  | text => decide
  | sequence => decide
  | record => exact absurd rfl (other _)

/-- Behind an element or a member comes a blank, a comma or the end; all of
them end a number. -/
theorem Lead.ends {lead : List Char} (h : Lead false lead) (rest : List Char) :
    Ends (lead ++ rest) := by
  cases h with
  | next before =>
      rw [List.append_assoc]
      exact ends_append before (ends_cons (by decide) _)

theorem WritesItems.ends {ts : List Tree} {cs : List Char} (h : WritesItems false ts cs)
    (rest : List Char) : Ends (cs ++ rest) := by
  cases h with
  | close blank =>
      rw [List.append_assoc]
      exact ends_append blank (ends_cons (by decide) _)
  | item before =>
      rw [List.append_assoc]
      exact before.ends _

theorem WritesMembers.ends {ms : List (Quoted × Tree)} {cs : List Char}
    (h : WritesMembers false ms cs) (rest : List Char) : Ends (cs ++ rest) := by
  cases h with
  | close blank =>
      rw [List.append_assoc]
      exact ends_append blank (ends_cons (by decide) _)
  | member before =>
      rw [List.append_assoc]
      exact before.ends _

/-- Each element takes at least one character. -/
theorem WritesItems.length_lt {first : Bool} {ts : List Tree} {cs : List Char}
    (h : WritesItems first ts cs) : ts.length < cs.length := by
  induction ts generalizing first cs with
  | nil =>
      cases h with
      | close => simp
  | cons t ts ih =>
      cases h with
      | item before element more =>
          obtain ⟨c, rest, rfl, -⟩ := element.head
          have hmore := ih more
          simp only [List.length_append, List.length_cons]
          omega

/-- Each member takes at least one character. -/
theorem WritesMembers.length_lt {first : Bool} {ms : List (Quoted × Tree)} {cs : List Char}
    (h : WritesMembers first ms cs) : ms.length < cs.length := by
  induction ms generalizing first cs with
  | nil =>
      cases h with
      | close => simp
  | cons m ms ih =>
      cases h with
      | member before left right value more =>
          have hmore := ih more
          simp only [List.length_append, List.length_cons]
          omega

/-! ## §4. The text without blanks. -/

mutual

/-- The text of a tree without blanks. -/
def Tree.compact : Tree → List Char
  | .word w => w.chars
  | .text s => s.chars
  | .sequence [] => ['[', ']']
  | .sequence (t :: ts) => '[' :: (t.compact ++ Tree.compactItems ts)
  | .record [] => [Char.ofNat 0x7B, Char.ofNat 0x7D]
  | .record ((k, t) :: ms) =>
      Char.ofNat 0x7B :: (k.chars ++ ':' :: (t.compact ++ Tree.compactMembers ms))

/-- The elements after the first, with the closing bracket. -/
def Tree.compactItems : List Tree → List Char
  | [] => [']']
  | t :: ts => ',' :: (t.compact ++ Tree.compactItems ts)

/-- The members after the first, with the closing brace. -/
def Tree.compactMembers : List (Quoted × Tree) → List Char
  | [] => [Char.ofNat 0x7D]
  | (k, t) :: ms => ',' :: (k.chars ++ ':' :: (t.compact ++ Tree.compactMembers ms))

end

/-- Without blanks around the colon, a member and what follows. -/
theorem writesMembers_member {first : Bool} {k : Quoted} {t : Tree} {ms : List (Quoted × Tree)}
    {lead cs rest : List Char} (before : Lead first lead) (value : Writes t cs)
    (more : WritesMembers false ms rest) :
    WritesMembers first ((k, t) :: ms) (lead ++ (k.chars ++ ':' :: (cs ++ rest))) :=
  @WritesMembers.member first k t ms lead [] [] cs rest before spaces_nil spaces_nil value more

mutual

/-- **Every tree has a text.** -/
theorem writes_compact : (t : Tree) → Writes t t.compact
  | .word w => .word w
  | .text s => .text s
  | .sequence [] => .sequence (@WritesItems.close true [] spaces_nil)
  | .sequence (t :: ts) =>
      .sequence (.item (.first spaces_nil) (writes_compact t) (writesItems_compact ts))
  | .record [] => .record (@WritesMembers.close true [] spaces_nil)
  | .record ((_, t) :: ms) =>
      .record
        (writesMembers_member (.first spaces_nil) (writes_compact t) (writesMembers_compact ms))

theorem writesItems_compact : (ts : List Tree) → WritesItems false ts (Tree.compactItems ts)
  | [] => @WritesItems.close false [] spaces_nil
  | t :: ts => .item lead_comma (writes_compact t) (writesItems_compact ts)

theorem writesMembers_compact :
    (ms : List (Quoted × Tree)) → WritesMembers false ms (Tree.compactMembers ms)
  | [] => @WritesMembers.close false [] spaces_nil
  | (_, t) :: ms => writesMembers_member lead_comma (writes_compact t) (writesMembers_compact ms)

end

end TunnelControl.Json
