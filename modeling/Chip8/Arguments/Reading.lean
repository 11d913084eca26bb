import Chip8.Arguments.Grammar

/-! # Reading the words of a command

Words are read from the left. A word that calls a subcommand hands over all words behind it. Two
dashes alone make everything behind them positional. A value is read only when the next argument
begins or the words end, so a word that no argument takes is complained about before a bad value in
front of it. What is missing, or must not stand together, is complained about at the end,
subcommands first.
-/

namespace Chip8.Arguments

universe u

variable {α : Type u}

/-- A place for the text of an argument. -/
structure Slot (α : Type u) where
  label : String
  once : Bool := true
  separator : Option Char := none
  reader : Reader α

def Slot.read (slot : Slot α) (text : String) : Except Problem (List α) :=
  let parts := match slot.separator with
    | some separator => (text.toList.splitOn separator).map String.ofList
    | none => [text]
  parts.mapM fun part => (slot.reader.read part).mapError (.ofRefusal part slot.label)

/-- How far the words for one command have been read. -/
structure Progress (α : Type u) where
  /-- The positional arguments without a text. -/
  unfilled : List (Positional α)
  /-- The slot that was opened last, and its text once that is known. -/
  pending : Option (Slot α × Option String) := none
  /-- The arguments with a value, as a usage line shows them. -/
  given : List String := []
  values : List α := []
  /-- Whether all words left are positional. -/
  isPlain : Bool := false

namespace Progress

/-- Whether the next word is a value unless it starts with a dash. -/
def isAwaiting (progress : Progress α) : Bool :=
  match progress.pending with
  | some (_, none) => true
  | _ => false

/-- Add the values of an argument, unless it had some and may have none again. -/
def add (progress : Progress α) (label : String) (once : Bool)
    (values : Except Problem (List α)) : Except Problem (Progress α) :=
  if progress.given.contains label then
    if once then .error (.repeated label)
    else values.map fun values => { progress with values := progress.values ++ values }
  else
    values.map fun values =>
      { progress with given := progress.given ++ [label], values := progress.values ++ values }

def fill (progress : Progress α) (slot : Slot α) (text : String) : Except Problem (Progress α) :=
  progress.add slot.label slot.once (slot.read text)

/-- Read the text of the slot that was opened last. -/
def settle (progress : Progress α) : Except Problem (Progress α) :=
  match progress.pending with
  | none => .ok progress
  | some (slot, none) => .error (.missingValue slot.label)
  | some (slot, some text) => { progress with pending := none }.fill slot text

/-- A named argument, with the text that is attached to it. -/
def give (progress : Progress α) (argument : Named α) (attached : Option String) :
    Except Problem (Progress α) :=
  match argument.purpose, attached with
  | .valued once separator reader, attached => do
    let slot := { label := argument.label, once, separator, reader }
    let progress ← progress.settle
    match attached with
    | some text => progress.fill slot text
    | none => return { progress with pending := some (slot, none) }
  | _, some text => .error (.unexpectedValue text argument.label)
  | .switch once value, none => do (← progress.settle).add argument.label once (.ok [value])
  | .request answer, none => do
    let _ ← progress.settle
    .error answer

end Progress

/-- The text attached to a letter, with or without an equals sign. -/
def attachedText? : List Char → Option String
  | [] => none
  | '=' :: text => some (String.ofList text)
  | text => some (String.ofList text)

inductive Shape where
  /-- Two dashes alone. -/
  | divider
  | long (name : String) (attached : Option String)
  | letters (letters : List Char)
  | plain
deriving DecidableEq, Repr

def Shape.ofWord (word : String) : Shape :=
  match word.toList with
  | ['-', '-'] => .divider
  | '-' :: '-' :: text =>
    let name := text.takeWhile (· != '=')
    .long (String.ofList name) ((text.drop name.length).tail?.map String.ofList)
  | '-' :: letter :: rest => .letters (letter :: rest)
  | _ => .plain

namespace Command

/-- The named arguments behind one dash. The first that takes a value takes the rest of the word. -/
def giveLetters (command : Command α) (progress : Progress α) :
    List Char → Except Problem (Progress α)
  | [] => .ok progress
  | letter :: rest =>
    match command.allNamed.find? (·.short == some letter) with
    | none => .error (.unexpectedArgument (String.ofList ['-', letter]))
    | some argument =>
      if argument.isValued then progress.give argument (attachedText? rest)
      else do command.giveLetters (← progress.give argument none) rest

/-- The complaint about a word that is one too many. -/
def surplus (command : Command α) (progress : Progress α) (word : String) : Problem :=
  if command.choices.isEmpty || (progress.isPlain && (command.subcommand? word).isSome) then
    .unexpectedArgument word
  else
    .unknownSubcommand word

/-- A word for the next positional argument. -/
def place (command : Command α) (progress : Progress α) (word : String) :
    Except Problem (Progress α) :=
  match progress.unfilled with
  | [] => .error (command.surplus progress word)
  | positional :: unfilled => do
    let slot := { label := positional.label, reader := positional.reader }
    return { ← progress.settle with unfilled, pending := some (slot, some word) }

/-- A word that calls no subcommand. -/
def take (command : Command α) (progress : Progress α) (word : String) :
    Except Problem (Progress α) :=
  match Shape.ofWord word with
  | .divider => .ok { progress with isPlain := true }
  | .long name attached =>
    match command.allNamed.find? (·.long == name) with
    | some argument => progress.give argument attached
    | none => .error (.unexpectedArgument ("--" ++ name))
  | .letters letters => command.giveLetters progress letters
  | .plain =>
    match progress.pending with
    | some (slot, none) => .ok { progress with pending := some (slot, some word) }
    | _ => command.place progress word

def exclusion? (command : Command α) (given : List String) : Option Problem :=
  match given.filter command.exclusive.contains with
  | [first, other] => some (.excluded first other)
  | first :: _ :: _ => some (.excludedBySeveral first)
  | _ => none

/-- The values of a command whose words have all been read. -/
def finish (command : Command α) (progress : Progress α) (hasSubcommand : Bool) :
    Except Problem (List α) := do
  let progress ← progress.settle
  if command.needsSubcommand && !hasSubcommand then
    .error (if progress.given.isEmpty then .nothingSaid command.about
      else .missingSubcommand command.name)
  else
    match command.exclusion? progress.given with
    | some problem => .error problem
    | none =>
      if progress.unfilled.any (·.isRequired) then .error .missingArguments
      else .ok (command.meaning ++ progress.values)

/-- Read words from some progress on. The values of a command come before those of its
subcommand. -/
def readFrom (command : Command α) (progress : Progress α) :
    List String → Except Problem (List (List α))
  | [] => do return [← command.finish progress false]
  | word :: rest =>
    if progress.isPlain then do command.readFrom (← command.place progress word) rest
    else
      match if progress.isAwaiting then none else command.subcommand? word with
      | some sub =>
        if sub.name == (help : Command α).name then .error (command.helpAt rest)
        else do
          let levels ← sub.readFrom { unfilled := sub.positionals } rest
          return (← command.finish progress true) :: levels
      | none => do command.readFrom (← command.take progress word) rest

/-- Read the words behind the name of a command. The values come level by level, from the command
down to the last subcommand. -/
def read (command : Command α) (words : List String) : Except Problem (List (List α)) :=
  command.readFrom { unfilled := command.positionals } words

end Command

end Chip8.Arguments
