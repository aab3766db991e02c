/-
  TunnelControl.Json.Generic
  ──────────────────────────
  **READING A TEXT WHOSE TYPE IS NOT KNOWN.**

  A text is taken for whatever value it spells.  The members of an object come
  out in order of their names, and of several with one name the last is kept.
  Values of this library hold no fractions, so a number with one is refused.

    • `Codec.readLeaf`  — a value that contains no other,
    • `Codec.readValue` — a value in which arrays and objects are nested up to a
                          depth,
    • `Codec.value`     — the codec of values.
-/
import TunnelControl.Json.Codec

namespace TunnelControl.Json.Codec

/-- Reads a value that contains no other, by its first character. -/
def readLeaf (c : Char) (cs : List Char) : Except ReadError (Value × List Char) :=
  if c = 'n' then (readWord ['u', 'l', 'l'] cs).map (.null, ·)
  else if c = 't' then (readWord ['r', 'u', 'e'] cs).map (.boolean true, ·)
  else if c = 'f' then (readWord ['a', 'l', 's', 'e'] cs).map (.boolean false, ·)
  else if c = '-' ∨ Text.isDigit c then do
    let (n, rest) ← readNumber (c :: cs)
    match n with
    | .integer i => .ok (.integer i, rest)
    | .real x => .error (.invalidType (.real x) "an integer")
  else if c = '"' then (readText cs).map fun r => (.text r.1, r.2)
  else .error .malformed

/-- Reads a value whose arrays and objects are nested at most so deep. -/
def readValue : Nat → Reader Value
  | 0, cs =>
      match skipSpaces cs with
      | [] => .error .endOfText
      | c :: cs => readLeaf c cs
  | depth + 1, cs =>
      match skipSpaces cs with
      | [] => .error .endOfText
      | c :: cs =>
          if c = '[' then do
            let (vs, cs) ← readItems (readValue depth) (cs.length + 1) true cs
            let cs ← closeSequence cs
            return (.sequence vs, cs)
          else if c = Char.ofNat 0x7B then
            (readEntries (readValue depth) (cs.length + 1) true [] cs).map fun r => (.record r.1, r.2)
          else readLeaf c cs

/-- How deep arrays and objects may be nested. -/
def maxDepth : Nat := 127

/-- Values of any kind. -/
def value : Codec Value := ⟨readValue maxDepth, id⟩

end TunnelControl.Json.Codec
