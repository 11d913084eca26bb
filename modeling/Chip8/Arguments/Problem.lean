import Chip8.Text.Plain

/-! # Problems with arguments

What can be wrong with the words of a command, and the sentence for each. Asking for help or for the
version ends the reading of the words too, and counts as a problem that is none: its exit status is
zero.
-/

namespace Chip8.Arguments

inductive Refusal where
  | because (reason : String)
  /-- Only certain words are taken, and this is none of them. -/
  | unlisted
deriving DecidableEq, Repr

/-- Why words do not make a command. Arguments are named as in a usage line. -/
inductive Problem where
  | help (about : String)
  | version (text : String)
  /-- Nothing at all was said where a subcommand is needed. -/
  | nothingSaid (about : String)
  | missingSubcommand (command : String)
  | unknownSubcommand (word : String)
  | unexpectedArgument (word : String)
  | unexpectedValue (value argument : String)
  | missingValue (argument : String)
  | refusedValue (value argument reason : String)
  | unlistedValue (value argument : String)
  | repeated (argument : String)
  | excluded (argument other : String)
  | excludedBySeveral (argument : String)
  | missingArguments
deriving DecidableEq, Repr

namespace Problem

/-- A word as a message quotes it: a code in it that is left open ends with the word. -/
def shown (word : String) : String := Text.withoutCodes word

/-- The refusal of a value for an argument. Where words are listed, an empty value counts as
missing. -/
def ofRefusal (value argument : String) : Refusal → Problem
  | .because reason => .refusedValue value argument reason
  | .unlisted => if value.isEmpty then .missingValue argument else .unlistedValue value argument

/-- What is said about a problem. Words that were given may not steer the terminal. -/
def message : Problem → String
  | .help about => about
  | .version text => text
  | .nothingSaid about => about
  | .missingSubcommand command =>
      s!"error: '{command}' requires a subcommand but one was not provided"
  | .unknownSubcommand word => s!"error: unrecognized subcommand '{shown word}'"
  | .unexpectedArgument word => s!"error: unexpected argument '{shown word}' found"
  | .unexpectedValue value argument =>
      s!"error: unexpected value '{shown value}' for '{argument}' found; no more were expected"
  | .missingValue argument => s!"error: a value is required for '{argument}' but none was supplied"
  | .refusedValue value argument reason =>
      s!"error: invalid value '{shown value}' for '{argument}': {shown reason}"
  | .unlistedValue value argument => s!"error: invalid value '{shown value}' for '{argument}'"
  | .repeated argument => s!"error: the argument '{argument}' cannot be used multiple times"
  | .excluded argument other => s!"error: the argument '{argument}' cannot be used with '{other}'"
  | .excludedBySeveral argument => s!"error: the argument '{argument}' cannot be used with:"
  | .missingArguments => "error: the following required arguments were not provided:"

def exitStatus : Problem → Nat
  | .help _ | .version _ => 0
  | _ => 2

/-- Whether the text was asked for. -/
def isAnswer (problem : Problem) : Bool := problem.exitStatus == 0

end Problem

end Chip8.Arguments
