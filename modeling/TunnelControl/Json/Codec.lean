/-
  TunnelControl.Json.Codec
  ────────────────────────
  **HOW A TYPE IS WRITTEN AS JSON AND READ BACK.**

  A codec is a reader together with the value that the other direction
  writes.  The codecs of this module are the leaves and the lists; records
  have a module of their own.

    • `Codec.text`, `Codec.boolean`, `Codec.int64`, `Codec.uint32`, `Codec.uint16`,
    • `Codec.list`, `Codec.optional`, `Codec.table`,
    • `Codec.decode` — a whole text, with nothing but blanks after the value,
    • `Codec.encode` — the compact text.
-/
import TunnelControl.Json.Scan
import TunnelControl.Json.Value

namespace TunnelControl.Json

/-- A way to read values of a type and the JSON value that stands for each. -/
structure Codec (α : Type) where
  /-- Reads a value from the front of a text. -/
  read : Reader α
  /-- The JSON value that is written. -/
  toValue : α → Value

namespace Codec

/-! ## §1. Values of an unexpected kind. -/

/-- The value that begins with a character, as far as a complaint needs it:
literals, numbers and strings are read whole, arrays and objects only seen. -/
def found (c : Char) (cs : List Char) : Except ReadError Found :=
  if c = 'n' then (readWord ['u', 'l', 'l'] cs).map fun _ => .null
  else if c = 't' then (readWord ['r', 'u', 'e'] cs).map fun _ => .boolean true
  else if c = 'f' then (readWord ['a', 'l', 's', 'e'] cs).map fun _ => .boolean false
  else if c = '-' ∨ Text.isDigit c then (readNumber (c :: cs)).map fun r => r.1.found
  else if c = '"' then (readText cs).map fun r => .text r.1
  else if c = '[' then .ok .sequence
  else if c = Char.ofNat 0x7B then .ok .record
  else .error .malformed

/-- The complaint about a value of an unexpected kind. -/
def mismatch {α : Type} (expected : String) (c : Char) (cs : List Char) : Except ReadError α :=
  match found c cs with
  | .ok f => .error (.invalidType f expected)
  | .error e => .error e

/-! ## §2. Leaves. -/

/-- Strings. -/
def text : Codec String where
  read := fun cs =>
    match skipSpaces cs with
    | [] => .error .endOfText
    | c :: cs => if c = '"' then readText cs else mismatch "a string" c cs
  toValue := .text

/-- Truth values. -/
def boolean : Codec Bool where
  read := fun cs =>
    match skipSpaces cs with
    | [] => .error .endOfText
    | c :: cs =>
        if c = 't' then (readWord ['r', 'u', 'e'] cs).map (true, ·)
        else if c = 'f' then (readWord ['a', 'l', 's', 'e'] cs).map (false, ·)
        else mismatch "a boolean" c cs
  toValue := .boolean

/-- Reads a whole number between two bounds.  A number with a point or an
exponent is of another kind, one outside the bounds is out of range. -/
def readInteger (expected : String) (low high : Int) : Reader Int := fun cs =>
  match skipSpaces cs with
  | [] => .error .endOfText
  | c :: cs =>
      if c = '-' ∨ Text.isDigit c then do
        let (n, rest) ← readNumber (c :: cs)
        match n with
        | .integer i =>
            if low ≤ i ∧ i ≤ high then .ok (i, rest)
            else .error (.invalidValue (.integer i) expected)
        | .real x => .error (.invalidType (.real x) expected)
      else mismatch expected c cs

/-- Signed numbers of 64 bits. -/
def int64 : Codec Int64 where
  read := fun cs =>
    (readInteger "i64" Int64.minValue.toInt Int64.maxValue.toInt cs).map fun r => (Int64.ofInt r.1, r.2)
  toValue := fun i => .integer i.toInt

/-- Unsigned numbers of 32 bits. -/
def uint32 : Codec UInt32 where
  read := fun cs =>
    (readInteger "u32" 0 (UInt32.size - 1) cs).map fun r => (UInt32.ofNat r.1.toNat, r.2)
  toValue := fun n => .integer n.toNat

/-- Unsigned numbers of 16 bits. -/
def uint16 : Codec UInt16 where
  read := fun cs =>
    (readInteger "u16" 0 (UInt16.size - 1) cs).map fun r => (UInt16.ofNat r.1.toNat, r.2)
  toValue := fun n => .integer n.toNat

/-! ## §3. Lists, options and tables. -/

/-- Moves to the next element of an array: `true` if there is one at the rest,
`false` if the rest begins with the closing bracket. -/
def nextElement (first : Bool) (cs : List Char) : Except ReadError (Bool × List Char) :=
  match skipSpaces cs with
  | [] => .error .endOfText
  | c :: cs =>
      if c = ']' then .ok (false, c :: cs)
      else if first then .ok (true, c :: cs)
      else if c = ',' then
        match skipSpaces cs with
        | [] => .error .endOfText
        | d :: cs => if d = ']' then .error .malformed else .ok (true, d :: cs)
      else .error .malformed

/-- The end of an array.  A further element is malformed. -/
def closeSequence (cs : List Char) : Except ReadError (List Char) :=
  match skipSpaces cs with
  | [] => .error .endOfText
  | c :: cs => if c = ']' then .ok cs else .error .malformed

/-- Reads elements up to the closing bracket; the first argument bounds their
number. -/
def readItems {α : Type} (item : Reader α) : Nat → Bool → Reader (List α)
  | 0, _, _ => .error .endOfText
  | n + 1, first, cs => do
      let (more, cs) ← nextElement first cs
      if more then
        let (a, cs) ← item cs
        let (as, cs) ← readItems item n false cs
        return (a :: as, cs)
      else return ([], cs)

/-- Arrays of values of one type. -/
def list {α : Type} (item : Codec α) : Codec (List α) where
  read := fun cs =>
    match skipSpaces cs with
    | [] => .error .endOfText
    | c :: cs =>
        if c = '[' then do
          let (as, cs) ← readItems item.read (cs.length + 1) true cs
          let cs ← closeSequence cs
          return (as, cs)
        else mismatch "a sequence" c cs
  toValue := fun as => .sequence (as.map item.toValue)

/-- Values that may be `null`. -/
def optional {α : Type} (item : Codec α) : Codec (Option α) where
  read := fun cs =>
    match skipSpaces cs with
    | 'n' :: cs => (readWord ['u', 'l', 'l'] cs).map (none, ·)
    | cs => (item.read cs).map fun r => (some r.1, r.2)
  toValue := fun a => match a with
    | none => .null
    | some a => item.toValue a

/-- Moves to the next name of an object; no name if the rest begins after the
closing brace. -/
def nextName (first : Bool) (cs : List Char) : Except ReadError (Option String × List Char) :=
  match skipSpaces cs with
  | [] => .error .endOfText
  | c :: cs =>
      if c = Char.ofNat 0x7D then .ok (none, cs)
      else if first then named c cs
      else if c = ',' then
        match skipSpaces cs with
        | [] => .error .endOfText
        | d :: cs => named d cs
      else .error .malformed
where
  /-- A name is a string. -/
  named (c : Char) (cs : List Char) : Except ReadError (Option String × List Char) :=
    if c = '"' then (readText cs).map fun r => (some r.1, r.2) else .error .malformed

/-- Reads the members of an object whose names are free; a later member of
the same name replaces an earlier one. -/
def readEntries {α : Type} (item : Reader α) : Nat → Bool → Entries α → Reader (Entries α)
  | 0, _, _, _ => .error .endOfText
  | n + 1, first, entries, cs => do
      let (name, cs) ← nextName first cs
      match name with
      | none => return (entries, cs)
      | some name =>
          let cs ← readColon cs
          let (a, cs) ← item cs
          readEntries item n false (Entries.insert name a entries) cs

/-- Objects with free names and values of one type. -/
def table {α : Type} (item : Codec α) : Codec (Entries α) where
  read := fun cs =>
    match skipSpaces cs with
    | [] => .error .endOfText
    | c :: cs =>
        if c = Char.ofNat 0x7B then readEntries item.read (cs.length + 1) true [] cs
        else mismatch "a map" c cs
  toValue := fun m => .record (m.map fun e => (e.1, item.toValue e.2))

/-! ## §4. Whole texts. -/

/-- Reads a whole text: one value and nothing but blanks after it. -/
def decode {α : Type} (codec : Codec α) (text : String) : Except ReadError α := do
  let (a, rest) ← codec.read text.toList
  if (skipSpaces rest).isEmpty then return a else throw .malformed

/-- The compact text of a value. -/
def encode {α : Type} (codec : Codec α) (a : α) : String :=
  (codec.toValue a).compact

/-- The text of a value over several lines, members in order of their names. -/
def encodePretty {α : Type} (codec : Codec α) (a : α) : String :=
  (codec.toValue a).sorted.pretty

end Codec

end TunnelControl.Json
