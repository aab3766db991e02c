/-
  TunnelControl.Json.Record
  ─────────────────────────
  **RECORDS WITH KNOWN FIELDS.**

  A record is written as an object, its fields in the order they are
  declared.  It is read from an object with its members in any order, or from
  an array of its fields in the declared order.  Members of unknown names are
  skipped, a known one may come only once, and a missing field has its
  fallback or is an error.

    • `Field`, `Fields`, `Row` — the declaration of a record and its content,
    • `Codec.record` — the codec of a type that is such a record.
-/
import TunnelControl.Json.Codec

namespace TunnelControl.Json

/-! ## §1. Declarations. -/

/-- One field of a record. -/
structure Field (β : Type) where
  /-- The name on the wire. -/
  name : String
  /-- How its value is written and read. -/
  codec : Codec β
  /-- What a missing member stands for; a required field has none. -/
  fallback : Option β
  /-- Values that are not written. -/
  omitted : β → Bool

/-- A field that has to be there. -/
def Field.required {β : Type} (name : String) (codec : Codec β) : Field β :=
  ⟨name, codec, none, fun _ => false⟩

/-- A field that may be missing and is always written. -/
def Field.defaulted {β : Type} (name : String) (codec : Codec β) (fallback : β) : Field β :=
  ⟨name, codec, some fallback, fun _ => false⟩

/-- A field that is missing, or `null`, when it has no value. -/
def Field.omittable {β : Type} (name : String) (codec : Codec β) : Field (Option β) :=
  ⟨name, codec.optional, some none, Option.isNone⟩

/-- The fields of a record, in the order they are declared. -/
inductive Fields : List Type → Type 1 where
  /-- No field. -/
  | nil : Fields []
  /-- A field before others. -/
  | cons {β : Type} {βs : List Type} (field : Field β) (rest : Fields βs) : Fields (β :: βs)

/-- One value for every field. -/
def Row : List Type → Type
  | [] => Unit
  | β :: βs => β × Row βs

/-- The values read so far. -/
def Slots : List Type → Type
  | [] => Unit
  | β :: βs => Option β × Slots βs

namespace Fields

/-- Nothing has been read. -/
def vacant : {βs : List Type} → Fields βs → Slots βs
  | _, .nil => ()
  | _, .cons _ rest => (none, rest.vacant)

/-- The number of fields. -/
def count : {βs : List Type} → Fields βs → Nat
  | _, .nil => 0
  | _, .cons _ rest => rest.count + 1

/-- The wire names in the declared order. -/
def names : {βs : List Type} → Fields βs → List String
  | _, .nil => []
  | _, .cons f rest => f.name :: rest.names

/-! ## §2. Writing. -/

/-- The members that are written. -/
def members : {βs : List Type} → Fields βs → Row βs → List (String × Value)
  | _, .nil, _ => []
  | _, .cons f rest, (a, row) =>
      if f.omitted a then rest.members row
      else (f.name, f.codec.toValue a) :: rest.members row

/-! ## §3. Reading an object. -/

/-- Reads the value of a member, after its name; nothing if no field has this
name.  A second member of one name is refused before its value is read. -/
def readMember : {βs : List Type} → Fields βs → String → Slots βs → List Char →
    Option (Except ReadError (Slots βs × List Char))
  | _, .nil, _, _, _ => none
  | _, .cons f rest, name, (slot, slots), cs =>
      if f.name = name then
        some (match slot with
          | some _ => .error (.duplicateField name)
          | none => do
              let cs ← readColon cs
              let (a, cs) ← f.codec.read cs
              return ((some a, slots), cs))
      else (rest.readMember name slots cs).map (·.map fun r => ((slot, r.1), r.2))

/-- Reads members up to the closing brace; the first argument bounds their
number. -/
def readMembers {βs : List Type} (fields : Fields βs) :
    Nat → Bool → Slots βs → List Char → Except ReadError (Slots βs × List Char)
  | 0, _, _, _ => .error .endOfText
  | n + 1, first, slots, cs => do
      let (name, cs) ← Codec.nextName first cs
      match name with
      | none => return (slots, cs)
      | some name =>
          match fields.readMember name slots cs with
          | some result => do
              let (slots, cs) ← result
              readMembers fields n false slots cs
          | none => do
              let cs ← readColon cs
              let cs ← skipValue cs
              readMembers fields n false slots cs

/-- Fills in what is missing; the first required field without a value is an
error. -/
def complete : {βs : List Type} → Fields βs → Slots βs → Except ReadError (Row βs)
  | _, .nil, _ => .ok ()
  | _, .cons f rest, (slot, slots) =>
      match slot.or f.fallback with
      | none => .error (.missingField f.name)
      | some a => do
          let row ← rest.complete slots
          return (a, row)

/-! ## §4. Reading an array. -/

/-- Reads the fields as array elements.  Missing ones at the end take their
fallbacks; `index` counts the elements that were there. -/
def readElements (expected : String) : {βs : List Type} → Fields βs → Nat → Bool →
    List Char → Except ReadError (Row βs × List Char)
  | _, .nil, _, _, cs => .ok ((), cs)
  | _, .cons f rest, index, first, cs => do
      let (more, cs) ← Codec.nextElement first cs
      if more then
        let (a, cs) ← f.codec.read cs
        let (row, cs) ← rest.readElements expected (index + 1) false cs
        return ((a, row), cs)
      else
        match f.fallback with
        | none => throw (.invalidLength index expected)
        | some a =>
            let (row, cs) ← rest.readElements expected (index + 1) first cs
            return ((a, row), cs)

end Fields

/-! ## §5. The codec of a record. -/

/-- What an array that is too short should have been. -/
def expectedLength (name : String) (count : Nat) : String :=
  "struct " ++ name ++ " with " ++ Text.ofNat count ++ (if count = 1 then " element" else " elements")

/-- The codec of a type whose values are rows of the fields. -/
def Codec.record {α : Type} {βs : List Type} (name : String) (fields : Fields βs)
    (ofRow : Row βs → α) (toRow : α → Row βs) : Codec α where
  read := fun cs =>
    match skipSpaces cs with
    | [] => .error .endOfText
    | c :: cs =>
        if c = '[' then do
          let (row, cs) ← fields.readElements (expectedLength name fields.count) 0 true cs
          let cs ← closeSequence cs
          return (ofRow row, cs)
        else if c = Char.ofNat 0x7B then do
          let (slots, cs) ← fields.readMembers (cs.length + 1) true fields.vacant cs
          let row ← fields.complete slots
          return (ofRow row, cs)
        else mismatch ("struct " ++ name) c cs
  toValue := fun a => .record (fields.members (toRow a))

end TunnelControl.Json
