/-
  TunnelControl.CommandLine.Reader
  ────────────────────────────────
  **READING A COMMAND LINE.**

  Words are read from left to right.  A command starts a level of its own;
  what is given on a level is checked when the next argument begins or when
  the level ends, and levels end innermost first.  Then the environment
  stands in for switches that were not given.

    • `Word.ofText`  — a word by its dashes,
    • `Level.press`  — a switch,
    • `Level.take`   — a word that is no switch,
    • `Level.finish` — the end of a level,
    • `readAll`      — all levels of a command line, outermost first,
    • `givenOnAny?`  — a switch that may be given on every level.
-/
import TunnelControl.CommandLine.Grammar
import TunnelControl.Entries
import TunnelControl.Text.Parts

namespace TunnelControl.CommandLine

/-! ## §1. Words. -/

/-- A word of a command line. -/
inductive Word where
  /-- Two dashes: the words after it are no switches. -/
  | dashes
  /-- A long name, perhaps with a value after an equals sign. -/
  | long (name : String) (attached : Option String)
  /-- Letters of switches. -/
  | letters (cs : List Char)
  /-- Any other word, the single dash among them. -/
  | plain
deriving DecidableEq

/-- A word by its dashes. -/
def Word.ofText (text : String) : Word :=
  match text.toList with
  | '-' :: '-' :: [] => .dashes
  | '-' :: '-' :: cs =>
      match Text.cut? '=' cs with
      | some (name, value) => .long (String.ofList name) (some (String.ofList value))
      | none => .long (String.ofList cs) none
  | '-' :: c :: cs => .letters (c :: cs)
  | _ => .plain

/-! ## §2. What is given on a level. -/

/-- An argument that is given. -/
structure Given where
  /-- Its value, if it takes one. -/
  value : String := ""
  /-- How many times it is given. -/
  times : Nat := 1
  /-- It stands on the command line, not in the environment. -/
  typed : Bool := true
deriving DecidableEq

/-- An argument that has begun. -/
structure Pending where
  /-- Its name. -/
  name : String
  /-- Which values it takes. -/
  range : ValueRange
  /-- Its value, once there is one. -/
  value : Option String
deriving DecidableEq

/-- How far a level has been read. -/
structure Level where
  /-- What is given. -/
  given : Entries Given := []
  /-- The argument that has begun. -/
  pending : Option Pending := none
  /-- How many words were taken in order. -/
  taken : Nat := 0
  /-- Switches are no longer looked for. -/
  verbatim : Bool := false
deriving DecidableEq

namespace Level

/-- Whether an argument is given. -/
def has (name : String) (l : Level) : Bool := (l.given.get? name).isSome

/-- Records an argument. -/
def record (name : String) (g : Given) (l : Level) : Level :=
  { l with given := l.given.insert name g }

/-- Checks and records the argument that has begun. -/
def settle (l : Level) : Except UsageError Level :=
  match l.pending with
  | none => .ok l
  | some p =>
      match p.value with
      | none => .error (.invalidValue p.name)
      | some value =>
          if l.has p.name then .error (.repeated p.name)
          else if p.range.holds value then
            .ok ({ l with pending := none }.record p.name { value := value })
          else .error (.invalidValue p.name)

/-- Begins an argument after the one before it is settled. -/
def begin (name : String) (range : ValueRange) (value : Option String) (l : Level) :
    Except UsageError Level := do
  let l ← l.settle
  return { l with pending := some ⟨name, range, value⟩ }

/-- Reads a switch.  One that takes a value and has none attached waits for
the next word. -/
def press (s : Switch) (attached : Option String) (l : Level) : Except UsageError Level :=
  match s.kind, attached with
  | .value range, some value => do (← l.begin s.name range (some value)).settle
  | .value range, none => l.begin s.name range none
  | _, some _ => .error (.attachedValue s.name)
  | .flag, none => do
      let l ← l.settle
      if l.has s.name then .error (.repeated s.name) else return l.record s.name {}
  | .count, none => do
      let l ← l.settle
      let before := ((l.given.get? s.name).map (·.times)).getD 0
      return l.record s.name { times := before + 1 }
  | .help, none => do
      let _ ← l.settle
      .error .help
  | .version, none => do
      let _ ← l.settle
      .error .version

/-- Reads a long name. -/
def pressLong (g : Grammar) (name : String) (attached : Option String) (l : Level) :
    Except UsageError Level :=
  match g.switches.find? fun s => s.name = name with
  | some s => l.press s attached
  | none => .error (.unknownArgument ("--" ++ name))

/-- Reads letters one after the other. -/
def pressLetters (g : Grammar) : List Char → Level → Except UsageError Level
  | [], l => .ok l
  | c :: cs, l =>
      match g.switches.find? fun s => s.letter = some c with
      | some s => do pressLetters g cs (← l.press s none)
      | none => .error (.unknownArgument (String.ofList ['-', c]))

/-- Whether the argument that has begun waits for the next word. -/
def awaits (l : Level) : Bool :=
  !l.verbatim && (l.pending.map fun p => p.value.isNone).getD false

/-- A word that nothing here takes. -/
def unexpected (g : Grammar) (word : String) (l : Level) : UsageError :=
  if !g.branches || (l.verbatim && g.isCommand word) then .unknownArgument word
  else .unknownCommand word

/-- Reads a word that is no switch and no command: the value that is waited
for, else the next word in order. -/
def take (g : Grammar) (word : String) (l : Level) : Except UsageError Level :=
  if l.awaits then
    .ok { l with pending := l.pending.map fun p => { p with value := some word } }
  else
    match g.positionals[l.taken]? with
    | some p => do return { (← l.begin p.name p.range (some word)) with taken := l.taken + 1 }
    | none => .error (l.unexpected g word)

/-- Reads a word that is no command. -/
def step (g : Grammar) (word : String) (l : Level) : Except UsageError Level :=
  if l.verbatim then l.take g word
  else match Word.ofText word with
    | .dashes => .ok { l with verbatim := true }
    | .long name attached => l.pressLong g name attached
    | .letters cs => l.pressLetters g cs
    | .plain => l.take g word

/-! ## §3. The end of a level. -/

/-- Lets the environment stand in for switches that are not given. -/
def fill (environment : Environment) : List Switch → Level → Except UsageError Level
  | [], l => .ok l
  | s :: rest, l =>
      let found := s.envName.bind fun v => environment.lookup v
      match s.kind, found with
      | .value range, some value =>
          if l.has s.name then fill environment rest l
          else if range.holds value then
            fill environment rest (l.record s.name { value := value, typed := false })
          else .error (.invalidValue s.name)
      | _, _ => fill environment rest l

/-- Ends a level; `last` says that no command follows. -/
def finish (environment : Environment) (g : Grammar) (last : Bool) (l : Level) :
    Except UsageError (Entries Given) := do
  let l ← (← l.settle).fill environment g.switches
  if last && g.branches then
    .error (if l.given.isEmpty then .nothingGiven else .missingCommand)
  else match g.positionals.find? fun p => !l.has p.name with
    | some p => .error (.missingArgument p.name)
    | none => return l.given

end Level

/-! ## §4. The command line. -/

/-- What the help command answers to the words after it: help, if they lead
to a command. -/
def helpAbout : Grammar → List String → UsageError
  | _, [] => .help
  | g, word :: rest =>
      match g.find? word with
      | some below => helpAbout below rest
      | none =>
          if g.isCommand word then
            match rest with
            | [] => .help
            | next :: _ => .unknownCommand next
          else .unknownCommand word

/-- A level that was read: the name of its command and what is given. -/
abbrev ReadLevel := String × Entries Given

/-- Reads the rest of a level and the levels below. -/
def readFrom (environment : Environment) (g : Grammar) (l : Level) :
    List String → Except UsageError (List ReadLevel)
  | [] => do return [(g.name, ← l.finish environment g true)]
  | word :: rest =>
      if !l.verbatim && !l.awaits && g.isCommand word then
        match g.find? word with
        | none => .error (helpAbout g rest)
        | some below => do
            let inner ← readFrom environment below {} rest
            return (g.name, ← l.finish environment g false) :: inner
      else do readFrom environment g (← l.step g word) rest

/-- Reads a command line. -/
def readAll (environment : Environment) (g : Grammar) (words : List String) :
    Except UsageError (List ReadLevel) :=
  readFrom environment g {} words

/-- What is given on any of some levels: the innermost that was typed, else
what the environment says. -/
def givenOnAny? (name : String) (levels : List ReadLevel) : Option Given :=
  let all := levels.reverse.filterMap fun l => l.2.get? name
  (all.find? (·.typed)).or all.head?

/-- What is given on the innermost level. -/
def givenLast? (name : String) (levels : List ReadLevel) : Option Given :=
  levels.getLast?.bind fun l => l.2.get? name

end TunnelControl.CommandLine
