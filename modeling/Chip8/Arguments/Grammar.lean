import Chip8.Arguments.Problem

/-! # Command grammars

A command takes positional arguments, named ones and subcommands, which are commands again. Every
argument is read into one type of values, and a reader may list the words that it takes. A command
with subcommands has one more, which shows help.
-/

namespace Chip8.Arguments

universe u

/-- How the text of an argument becomes a value. -/
structure Reader (α : Type u) where
  read : String → Except Refusal α
  /-- The words that are taken, where these can be listed. -/
  listed : List String := []

namespace Reader

variable {α : Type u}

/-- Read by a function that gives a reason for what it refuses. -/
def explained (read : String → Except String α) : Reader α where
  read text := (read text).mapError .because

/-- Take one of the listed words as it stands. -/
def oneOf (words : List (String × α)) : Reader α where
  read text := match words.lookup text with
    | some value => .ok value
    | none => .error .unlisted
  listed := words.map Prod.fst

end Reader

/-- An argument that is known by its place. -/
structure Positional (α : Type u) where
  name : String
  isRequired : Bool := true
  reader : Reader α

def Positional.label {α : Type u} (argument : Positional α) : String :=
  let shown := argument.name.toUpper
  if argument.isRequired then s!"<{shown}>" else s!"[{shown}]"

/-- What a named argument is for. -/
inductive Purpose (α : Type u) where
  /-- A switch, which may be limited to one use. -/
  | switch (once : Bool) (value : α)
  /-- An argument with a value, which may be a list cut at a separator. -/
  | valued (once : Bool) (separator : Option Char) (reader : Reader α)
  /-- Not an argument at all, but a request that ends the reading. -/
  | request (answer : Problem)

/-- An argument that is known by its name, which two dashes announce, or by one letter. -/
structure Named (α : Type u) where
  long : String
  short : Option Char := none
  purpose : Purpose α

namespace Named

variable {α : Type u}

/-- Whether an argument takes a value. -/
def isValued (argument : Named α) : Bool :=
  match argument.purpose with
  | .valued .. => true
  | _ => false

/-- The argument as a usage line shows it. Dots follow a switch that may be given again. -/
def label (argument : Named α) : String :=
  match argument.purpose with
  | .valued .. => s!"--{argument.long} <{argument.long.toUpper}>"
  | .switch false _ => s!"--{argument.long}..."
  | _ => s!"--{argument.long}"

end Named

structure Command (α : Type u) where
  name : String
  /-- Other names, which are never shown. -/
  aliases : List String := []
  /-- One sentence on what the command does. -/
  about : String
  /-- What calling the command says by itself. -/
  meaning : List α := []
  positionals : List (Positional α) := []
  named : List (Named α) := []
  /-- The named arguments of which only one may be given, as a usage line shows them. -/
  exclusive : List String := []
  subcommands : List (Command α) := []
  needsSubcommand : Bool := false
  /-- Whether the front of a subcommand's name will do, if it is the front of no other. -/
  abbreviates : Bool := false

namespace Command

variable {α : Type u}

/-- The subcommand that shows help. -/
def help : Command α :=
  { name := "help", about := "Print this message or the help of the given subcommand(s)" }

/-- The subcommands, with the one that shows help. -/
def choices (command : Command α) : List (Command α) :=
  if command.subcommands.isEmpty then [] else command.subcommands ++ [help]

def answersTo (word : String) (command : Command α) : Bool :=
  command.name == word || command.aliases.contains word

def startsWith (word : String) (command : Command α) : Bool :=
  (command.name :: command.aliases).any (word.toList.isPrefixOf ·.toList)

def choice? (command : Command α) (word : String) : Option (Command α) :=
  command.choices.find? (answersTo word)

/-- The subcommand that a word calls, abbreviated or not. -/
def subcommand? (command : Command α) (word : String) : Option (Command α) :=
  if command.abbreviates then
    match command.choices.filter (startsWith word) with
    | [only] => some only
    | _ => command.choice? word
  else
    command.choice? word

/-- The named arguments, with the one that asks for help. -/
def allNamed (command : Command α) : List (Named α) :=
  command.named ++ [⟨"help", some 'h', .request (.help command.about)⟩]

/-- The help that the words behind the help subcommand ask for. -/
def helpAt (command : Command α) : List String → Problem
  | [] => .help command.about
  | word :: rest =>
    match command.choice? word with
    | some sub => sub.helpAt rest
    | none => .unknownSubcommand word

end Command

end Chip8.Arguments
