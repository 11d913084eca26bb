import Chip8.Arguments.Grammar

/-! # Completion scripts

Scripts that teach a shell the words of a command: its subcommands and named arguments and, where
the shell can make use of them, the words listed for their values.
-/

namespace Chip8.Arguments

universe u

variable {α : Type u}

/-- A shell that can load a completion script. -/
inductive Shell where
  | bash
  | elvish
  | fish
  | powershell
  | zsh
deriving DecidableEq, Repr

namespace Shell

def names : List (String × Shell) :=
  [("bash", .bash), ("elvish", .elvish), ("fish", .fish), ("powershell", .powershell),
    ("zsh", .zsh)]

/-- Whether scripts for a shell offer the words of values. -/
def offersValues : Shell → Bool
  | .elvish | .powershell => false
  | _ => true

end Shell

/-- A named argument as it is typed. -/
def Named.spellings (argument : Named α) : List String :=
  let short := match argument.short with
    | some letter => [String.ofList ['-', letter]]
    | none => []
  short ++ ["--" ++ argument.long]

/-- The words listed for the value of a named argument. -/
def Named.listed (argument : Named α) : List String :=
  match argument.purpose with
  | .valued _ _ reader => reader.listed
  | _ => []

/-- The words that a script offers for a command. -/
def Command.scriptWords (withValues : Bool) (command : Command α) : List String :=
  let values := command.allNamed.flatMap (·.listed) ++
    command.positionals.flatMap fun positional => positional.reader.listed
  command.choices.map (·.name) ++ command.allNamed.flatMap (·.spellings) ++
    if withValues then values else []

namespace Script

/-- The words of each subcommand, under its name. -/
def branches (withValues : Bool) (command : Command α) : List (String × List String) :=
  command.subcommands.map fun sub => (sub.name, sub.scriptWords withValues)

def join (separator : String) (words : List String) : String := String.intercalate separator words

def quote (word : String) : String := "'" ++ word ++ "'"

def bash (program : String) (top : List String) (branches : List (String × List String)) :
    List String :=
  [s!"_{program}() \x7b", "    local words", "    case \"$\x7bCOMP_WORDS[1]\x7d\" in"] ++
    branches.map (fun (name, words) => s!"        {name}) words=\"" ++ join " " words ++ "\" ;;") ++
    ["        *) words=\"" ++ join " " top ++ "\" ;;", "    esac",
      "    COMPREPLY=( $(compgen -W \"$words\" -- \"$\x7bCOMP_WORDS[COMP_CWORD]\x7d\") )", "\x7d",
      s!"complete -F _{program} -o bashdefault -o default {program}"]

def zsh (program : String) (top : List String) (branches : List (String × List String)) :
    List String :=
  ["#compdef " ++ program, "case \"$words[2]\" in"] ++
    branches.map (fun (name, words) => s!"    {name}) compadd -- " ++ join " " words ++ " ;;") ++
    ["    *) compadd -- " ++ join " " top ++ " ;;", "esac"]

def fish (program : String) (top : List String) (branches : List (String × List String)) :
    List String :=
  let line (condition : String) (words : List String) :=
    s!"complete -c {program} -n \"{condition}\" -a \"" ++ join " " words ++ "\""
  line "__fish_use_subcommand" top ::
    branches.map fun (name, words) => line ("__fish_seen_subcommand_from " ++ name) words

def elvish (program : String) (top : List String) (branches : List (String × List String)) :
    List String :=
  let quoted (words : List String) := join " " (words.map quote)
  [s!"set edit:completion:arg-completer[{program}] = \x7b|@words|", "    if $false \x7b"] ++
    branches.flatMap (fun (name, words) =>
      [s!"    \x7d elif (eq $words[1] {name}) \x7b", "        put " ++ quoted words]) ++
    ["    \x7d else \x7b", "        put " ++ quoted top, "    \x7d", "\x7d"]

def powershell (program : String) (top : List String) (branches : List (String × List String)) :
    List String :=
  let quoted (words : List String) := join ", " (words.map quote)
  ["Register-ArgumentCompleter -Native -CommandName " ++ quote program ++ " -ScriptBlock \x7b",
      "    param($word, $commandAst, $position)",
      "    $words = switch (\"$($commandAst.CommandElements[1])\") \x7b"] ++
    branches.map (fun (name, words) => s!"        {name} \x7b " ++ quoted words ++ " \x7d") ++
    ["        default \x7b " ++ quoted top ++ " \x7d", "    \x7d",
      "    $words | Where-Object \x7b $_ -like \"$word*\" \x7d", "\x7d"]

/-- The lines of the script of a command, which the shell knows as a program. -/
def lines (shell : Shell) (program : String) (command : Command α) : List String :=
  let top := command.scriptWords shell.offersValues
  let branches := branches shell.offersValues command
  match shell with
  | .bash => bash program top branches
  | .elvish => elvish program top branches
  | .fish => fish program top branches
  | .powershell => powershell program top branches
  | .zsh => zsh program top branches

end Script

end Chip8.Arguments
