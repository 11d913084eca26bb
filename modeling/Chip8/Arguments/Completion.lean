import Chip8.Arguments.Grammar

/-! # Completing words of a command

Which words may stand behind the words that are already there. Subcommands are walked down only by
their full names, and the word under the cursor never selects one.
-/

namespace Chip8.Arguments

universe u

variable {α : Type u}

namespace Command

/-- What may stand behind some arguments: subcommands at the front, and the words listed for the
next positional argument. -/
def offers (command : Command α) (arguments : Nat) : List String :=
  let names := if arguments = 0 then command.choices.map (·.name) else []
  let listed := match command.positionals[arguments]? with
    | some positional => positional.reader.listed
    | none => []
  names ++ listed

def offersBehind (command : Command α) : List String → List String
  | [] => command.offers 0
  | word :: rest =>
    match command.subcommands.find? (answersTo word) with
    | some sub => sub.offersBehind rest
    | none => command.offers (rest.length + 1)

end Command

/-- Whether a word is the beginning of an offer, letters of either case being the same. -/
def isBeginning (word offer : String) : Bool :=
  (word.toList.map Char.toLower).isPrefixOf (offer.toList.map Char.toLower)

/-- The offers behind some words that begin with a word, each once and in order. -/
def Command.candidates (command : Command α) (words : List String) (word : String) : List String :=
  let offers := (command.offersBehind words).filter (isBeginning word)
  (offers.mergeSort fun a b => decide (a ≤ b)).eraseDups

end Chip8.Arguments
