/-
  TunnelControl.AppConfig.Toml.Document
  ─────────────────────────────────────
  **TOML DOCUMENTS.**

  A document is a row of lines: a key with its value, a header of a table, or
  a header of a further element of a list of tables.  A header holds for the
  keys up to the next one.

    • `valueWithin` — a value, with lists and tables up to a depth,
    • `Line`, `line`, `lines`,
    • `parse?`      — the members of the whole document.
-/
import TunnelControl.AppConfig.Toml.Scalar
import TunnelControl.AppConfig.Toml.Table

namespace TunnelControl.Toml

/-! ## §1. Values. -/

/-- Takes a list; the last comma may be left over. -/
def array (value : Scan ConfigValue) : Scan (List ConfigValue) := do
  Scan.char '['
  let item : Scan ConfigValue := do
    lineGap
    let v ← value
    lineGap
    pure v
  let items ← Scan.optional? (Scan.separated item (Scan.char ','))
  if items.isSome then
    let _ ← Scan.optional? (Scan.char ',')
  lineGap
  Scan.char ']'
  return items.getD []

/-- Takes a key and its value. -/
def pair (value : Scan ConfigValue) : Scan (List String × ConfigValue) := do
  let k ← key
  Scan.char '='
  gap
  let v ← value
  gap
  return (k, v)

/-- Takes a table on one line. -/
def inlineTable (value : Scan ConfigValue) : Scan (Entries ConfigValue) := do
  Scan.char (Char.ofNat 0x7B)
  gap
  let pairs ← Scan.optional? (Scan.separated (pair value) (Scan.char ','))
  gap
  Scan.char (Char.ofNat 0x7D)
  match Table.assignAll (pairs.getD []) ⟨.header, []⟩ with
  | some t => pure (finishedMembers t.members)
  | none => failure

/-- Takes a value; lists and tables may be nested to a depth. -/
def valueWithin : Nat → Scan ConfigValue
  | 0 => scalar
  | depth + 1 => do
      match ← Scan.peek with
      | some c =>
          if c = '[' then .sequence <$> array (valueWithin depth)
          else if c = Char.ofNat 0x7B then .table <$> inlineTable (valueWithin depth)
          else scalar
      | none => failure

/-! ## §2. Lines. -/

/-- A line that says something. -/
inductive Line where
  /-- A key has a value. -/
  | assignment (key : List String) (value : ConfigValue)
  /-- A table begins. -/
  | header (key : List String)
  /-- A further element of a list of tables begins. -/
  | element (key : List String)

/-- Takes a line. -/
def line : Scan Line := do
  match ← Scan.peek with
  | some '[' =>
      (do
        Scan.word ['[', '[']
        let k ← key
        Scan.word [']', ']']
        pure (.element k)) <|> do
      Scan.char '['
      let k ← key
      Scan.char ']'
      return .header k
  | _ =>
      let (k, v) ← pair (valueWithin depthLimit)
      return .assignment k v

/-- Takes lines, some of which say nothing. -/
def lines : Nat → Scan (List Line)
  | 0 => failure
  | n + 1 => do
      gap
      let said ← (do
        match ← Scan.peek with
        | some c =>
            if c = '#' ∨ c = '\n' ∨ c = '\r' then pure [] else return [← line]
        | none => pure [])
      gap
      let _ ← Scan.optional? comment
      (do
        Scan.atEnd
        pure said) <|> do
      newline
      return said ++ (← lines n)

/-! ## §3. The document. -/

/-- A header and the keys it holds for. -/
structure Block where
  /-- The line that opens it. -/
  opening : Line
  /-- Its keys and their values. -/
  pairs : List (List String × ConfigValue)

/-- The keys before the first header, and the blocks. -/
def blocks : List Line → List (List String × ConfigValue) × List Block
  | [] => ([], [])
  | .assignment k v :: rest =>
      let (pairs, bs) := blocks rest
      ((k, v) :: pairs, bs)
  | opening :: rest =>
      let (pairs, bs) := blocks rest
      ([], ⟨opening, pairs⟩ :: bs)

/-- Adds a block to the document. -/
def Block.add (b : Block) (t : Table) : Option Table :=
  match b.opening with
  | .assignment _ _ => none
  | .header k => do t.atEnd false (Table.fill (← k.getLast?) b.pairs) k.dropLast
  | .element k => do t.atEnd false (Table.element (← k.getLast?) b.pairs) k.dropLast

/-- The document of lines. -/
def build (ls : List Line) : Option Table := do
  let (pairs, bs) := blocks ls
  bs.foldlM (fun t b => b.add t) (← Table.assignAll pairs ⟨.header, []⟩)

/-- The members of a document.  A byte order mark in front does not count. -/
def parse? (s : String) : Option (Entries ConfigValue) := do
  let cs := match s.toList with
    | '\ufeff' :: rest => rest
    | cs => cs
  let ls ← (lines (cs.length + 1)).run? (String.ofList cs)
  let t ← build ls
  return finishedMembers t.members

end TunnelControl.Toml
