/-
  TunnelControl.AppConfig.Toml.Text
  ─────────────────────────────────
  **TEXTS AND KEYS OF A TOML DOCUMENT.**

  A text stands between quotes or apostrophes, one of them for a text on one
  line, three of them for a text on several lines.  Backslashes count between
  quotes only.  A key is a row of names with points between them.

    • `gap`, `newline`, `comment`,
    • `text` — a text of any of the four forms,
    • `key`  — a key.
-/
import TunnelControl.AppConfig.Variable

namespace TunnelControl.Toml

/-! ## §1. Between the tokens. -/

/-- Blanks within a line. -/
def isGap (c : Char) : Bool := c == ' ' || c == '\t'

/-- Characters that may stand in a line as they are. -/
def isPlain (c : Char) : Bool := c == '\t' || (' ' ≤ c && c != '\x7f')

/-- Takes blanks. -/
def gap : Scan Unit := do
  let _ ← Scan.takeWhile isGap

/-- Takes the end of a line. -/
def newline : Scan Unit := Scan.char '\n' <|> Scan.word ['\r', '\n']

/-- Takes a comment. -/
def comment : Scan Unit := do
  Scan.char '#'
  let _ ← Scan.takeWhile isPlain

/-- Takes blanks, line ends and comments that end with their line. -/
def lineGap : Scan Unit := do
  gap
  let _ ← Scan.many do
    let _ ← Scan.optional? comment
    newline
    gap

/-! ## §2. Texts. -/

/-- The quote and the apostrophe. -/
def quote : Char := '"'

/-- The mark of texts without backslashes. -/
def apostrophe : Char := Char.ofNat 39

/-- Takes a character of a text on one line. -/
def lineChar (mark : Char) : Scan Char := do
  let c ← Scan.next
  if c = mark then failure
  else if mark = quote ∧ c = '\\' then Variable.escaped
  else if isPlain c then pure c
  else failure

/-- Takes a text on one line. -/
def lineText (mark : Char) : Scan String := do
  Scan.char mark
  let cs ← Scan.many (lineChar mark)
  Scan.char mark
  return String.ofList cs

/-- Takes a backslash at the end of a line and all blanks after it. -/
def continued : Scan (List Char) := do
  Scan.char '\\'
  gap
  newline
  let _ ← Scan.many (newline <|> do
    let _ ← Scan.takeSome isGap)
  return []

/-- Takes a character of a text on several lines that is no mark. -/
def blockChar (mark : Char) : Scan (List Char) :=
  (do
    newline
    pure ['\n']) <|>
  (if mark = quote then continued else failure) <|> do
    return [← lineChar mark]

/-- Takes marks that do not end the text: fewer than three of them. -/
def fewMarks (mark : Char) : Scan (List Char) := do
  let marks ← Scan.takeSome (· == mark)
  if marks.length < 3 then pure marks else failure

/-- Takes the marks that end the text; two more belong to the text. -/
def lastMarks (mark : Char) : Scan (List Char) := do
  let marks ← Scan.takeWhile (· == mark)
  if 3 ≤ marks.length ∧ marks.length ≤ 5 then pure (marks.drop 3) else failure

/-- Takes a text on several lines. -/
def blockText (mark : Char) : Scan String := do
  Scan.word [mark, mark, mark]
  let _ ← Scan.optional? newline
  let pieces ← Scan.many (fewMarks mark <|> blockChar mark)
  let last ← lastMarks mark
  return String.ofList (pieces.flatten ++ last)

/-- Takes a text of any form. -/
def text : Scan String :=
  blockText quote <|> lineText quote <|> blockText apostrophe <|> lineText apostrophe

/-! ## §3. Keys. -/

/-- The greatest number of names in a key and of values inside each other. -/
def depthLimit : Nat := 79

/-- Takes a name. -/
def name : Scan String :=
  lineText quote <|> lineText apostrophe <|>
    (String.ofList <$> Scan.takeSome Variable.isNameChar)

/-- Takes a key. -/
def key : Scan (List String) := do
  let names ← Scan.separated (do
    gap
    let n ← name
    gap
    pure n) (Scan.char '.')
  if names.length ≤ depthLimit then pure names else failure

end TunnelControl.Toml
