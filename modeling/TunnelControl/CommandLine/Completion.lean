/-
  TunnelControl.CommandLine.Completion
  ────────────────────────────────────
  **COMPLETION SCRIPTS.**

  A script tells a shell which words can follow the name of the program.

    • `completionWords`, `completionScript`.
-/
import TunnelControl.CommandLine.Command

namespace TunnelControl.CommandLine

/-- The words that can follow the name of a command, aliases apart. -/
def completionWords (g : Grammar) : List String :=
  g.commands.map Grammar.name ++ [Grammar.helpWord]
    ++ g.switches.map fun s => "--" ++ s.name

/-- The script of a shell. -/
def completionScript (shell : Shell) (g : Grammar) : String :=
  let words := String.intercalate " " (completionWords g)
  match shell with
  | .bash => "complete -W '" ++ words ++ "' " ++ g.name ++ "\n"
  | .elvish =>
      "set edit:completion:arg-completer[" ++ g.name ++ "] = \x7b|@args| put " ++ words ++ " \x7d\n"
  | .fish => "complete -c " ++ g.name ++ " -f -a '" ++ words ++ "'\n"
  | .powershell =>
      "Register-ArgumentCompleter -Native -CommandName " ++ g.name
        ++ " -ScriptBlock \x7b -split '" ++ words ++ "' \x7d\n"
  | .zsh => "#compdef " ++ g.name ++ "\ncompadd -- " ++ words ++ "\n"

end TunnelControl.CommandLine
