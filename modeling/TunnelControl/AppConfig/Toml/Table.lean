/-
  TunnelControl.AppConfig.Toml.Table
  ──────────────────────────────────
  **BUILDING THE TABLES OF A TOML DOCUMENT.**

  A table comes about by a header, by leading to another table, or by a key
  with points; where it came from decides what may be added to it later.
  Nothing is ever set twice.

    • `Entry`, `Origin`, `Table`,
    • `Table.atEnd` — changes the table at the end of some names,
    • `Table.assign`, `Table.fill`, `Table.element`,
    • `Entry.finished` — what it comes to.
-/
import TunnelControl.AppConfig.Value

namespace TunnelControl.Toml

/-- How a table came about. -/
inductive Origin where
  /-- By a header of its own, or as the document itself. -/
  | header
  /-- On the way to a table with a header. -/
  | passage
  /-- On the way of a key with points. -/
  | dotted
deriving DecidableEq

/-- What a name stands for while a document is read. -/
inductive Entry where
  /-- A finished value. -/
  | value (v : ConfigValue)
  /-- A table that may still grow. -/
  | table (origin : Origin) (members : List (String × Entry))
  /-- A list of tables, of which the last may still grow. -/
  | tables (elements : List Entry)

/-- A table that may still grow. -/
structure Table where
  /-- How it came about. -/
  origin : Origin
  /-- What its names stand for. -/
  members : Entries Entry

namespace Table

/-- A table as an entry of another one. -/
def entry (t : Table) : Entry := .table t.origin t.members

/-- Gives a name of a table its entry. -/
def set (name : String) (e : Entry) (t : Table) : Table :=
  { t with members := t.members.insert name e }

/-- Changes the table at the end of some names.  Tables on the way are made
if they are missing; a key with points does not lead through a table that has
a header. -/
def atEnd (dotted : Bool) (change : Table → Option Table) : List String → Table → Option Table
  | [], t => change t
  | name :: rest, t =>
      match t.members.get? name with
      | none => do
          let fresh : Table := ⟨if dotted then .dotted else .passage, []⟩
          return t.set name (← atEnd dotted change rest fresh).entry
      | some (.value _) => none
      | some (.table origin members) =>
          if dotted ∧ origin = .header then none
          else do return t.set name (← atEnd dotted change rest ⟨origin, members⟩).entry
      | some (.tables elements) =>
          match elements.getLast? with
          | some (.table origin members) => do
              let last ← atEnd dotted change rest ⟨origin, members⟩
              return t.set name (.tables (elements.dropLast ++ [last.entry]))
          | _ => none

/-- Gives a name its entry if it has none.  A key with points ends in a table
made by such keys, a key without them in the table itself. -/
def define (direct : Bool) (name : String) (e : Entry) (t : Table) : Option Table :=
  if (t.origin == .dotted) == direct then none
  else if (t.members.get? name).isSome then none
  else some (t.set name e)

/-- Gives a key its value. -/
def assign (key : List String) (v : ConfigValue) (t : Table) : Option Table :=
  match key.getLast? with
  | none => none
  | some name => atEnd true (define (key.length == 1) name (.value v)) key.dropLast t

/-- Gives keys their values. -/
def assignAll (pairs : List (List String × ConfigValue)) (t : Table) : Option Table :=
  pairs.foldlM (fun t p => t.assign p.1 p.2) t

/-- Fills the table of a header.  It may exist as the way to another table. -/
def fill (name : String) (pairs : List (List String × ConfigValue)) (t : Table) :
    Option Table :=
  match t.members.get? name with
  | none => do return t.set name (← assignAll pairs ⟨.header, []⟩).entry
  | some (.table .passage members) => do
      return t.set name (← assignAll pairs ⟨.header, members⟩).entry
  | some _ => none

/-- Adds a table to a list of tables. -/
def element (name : String) (pairs : List (List String × ConfigValue)) (t : Table) :
    Option Table :=
  match t.members.get? name with
  | none => do return t.set name (.tables [(← assignAll pairs ⟨.header, []⟩).entry])
  | some (.tables elements) => do
      return t.set name (.tables (elements ++ [(← assignAll pairs ⟨.header, []⟩).entry]))
  | some _ => none

end Table

mutual

/-- The value of an entry. -/
def Entry.finished : Entry → ConfigValue
  | .value v => v
  | .table _ members => .table (finishedMembers members)
  | .tables elements => .sequence (finishedElements elements)

/-- The values of members. -/
def finishedMembers : List (String × Entry) → List (String × ConfigValue)
  | [] => []
  | (name, e) :: rest => (name, e.finished) :: finishedMembers rest

/-- The values of elements. -/
def finishedElements : List Entry → List ConfigValue
  | [] => []
  | e :: rest => e.finished :: finishedElements rest

end

end TunnelControl.Toml
