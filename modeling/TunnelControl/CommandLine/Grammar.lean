/-
  TunnelControl.CommandLine.Grammar
  ─────────────────────────────────
  **WHAT A COMMAND LINE MAY SAY.**

  A command has switches, words that it takes in order, and commands below
  it.  A switch is given by its long name after two dashes, or by its letter
  after one.

    • `Environment`, `ValueRange`, `Switch`, `Positional`, `Grammar`,
    • `UsageError` — why a command line is not run.
-/
namespace TunnelControl.CommandLine

/-! ## §1. Commands. -/

/-- The values of environment variables. -/
abbrev Environment := List (String × String)

/-- Which values an argument takes. -/
inductive ValueRange where
  | anything
  | nonEmpty
  | oneOf (words : List String)
deriving DecidableEq

/-- Whether a value is in range. -/
def ValueRange.holds : ValueRange → String → Bool
  | anything, _ => true
  | nonEmpty, value => value ≠ ""
  | oneOf words, value => words.contains value

/-- What a switch does. -/
inductive SwitchKind where
  | value (range : ValueRange)
  /-- It turns something on, at most once. -/
  | flag
  | count
  | help
  | version
deriving DecidableEq

/-- A switch. -/
structure Switch where
  name : String
  kind : SwitchKind
  letter : Option Char := none
  /-- The environment variable that stands in for it. -/
  envName : Option String := none
deriving DecidableEq

/-- A word that a command takes in its place. -/
structure Positional where
  name : String
  range : ValueRange
deriving DecidableEq

/-- A command with everything that may follow it. -/
structure Grammar where
  /-- The names, the first of which is its own. -/
  names : List String
  switches : List Switch
  /-- The words that are taken in order. -/
  positionals : List Positional := []
  commands : List Grammar := []

namespace Grammar

/-- The name of its own. -/
def name (g : Grammar) : String := g.names.headD ""

/-- Whether commands can follow. -/
def branches (g : Grammar) : Bool := !g.commands.isEmpty

/-- The command below with a name. -/
def find? (word : String) (g : Grammar) : Option Grammar :=
  g.commands.find? fun c => c.names.contains word

/-- The command that explains the others, wherever there are others. -/
def helpWord : String := "help"

/-- Whether a word is a command here. -/
def isCommand (word : String) (g : Grammar) : Bool :=
  g.branches && (word == helpWord || (g.find? word).isSome)

end Grammar

/-! ## §2. Errors. -/

/-- Why a command line is not run. -/
inductive UsageError where
  | help
  | version
  /-- A command must follow, and nothing at all is given. -/
  | nothingGiven
  | missingCommand
  /-- A word that is no command stands where one must follow. -/
  | unknownCommand (word : String)
  /-- A switch or a word that nothing here takes. -/
  | unknownArgument (word : String)
  /-- The value of an argument is missing or not in range. -/
  | invalidValue (name : String)
  | repeated (name : String)
  /-- A switch that takes no value is given one. -/
  | attachedValue (name : String)
  | missingArgument (name : String)
deriving DecidableEq

/-- The exit code: what was asked for is no failure. -/
def UsageError.exitCode : UsageError → Nat
  | help => 0
  | version => 0
  | _ => 2

/-- The wording of a usage error. -/
def UsageError.message : UsageError → String
  | help => "help was asked for"
  | version => "the version was asked for"
  | nothingGiven => "nothing is given"
  | missingCommand => "a command is missing"
  | unknownCommand word => "'" ++ word ++ "' is no command"
  | unknownArgument word => "'" ++ word ++ "' is unexpected"
  | invalidValue name => "the value of '" ++ name ++ "' is missing or invalid"
  | repeated name => "'" ++ name ++ "' is given twice"
  | attachedValue name => "'" ++ name ++ "' takes no value"
  | missingArgument name => "'" ++ name ++ "' is missing"

end TunnelControl.CommandLine
