import Chip8.Arguments.Completion
import Chip8.Debugger.Command
import Chip8.Text.Offset
import Chip8.Text.Words

/-! # Completing a command line

The words that can stand at the cursor, and the hint shown behind a line with only one of them. What
is behind the cursor does not matter. A line that cannot be split into words has no completion.
-/

namespace Chip8.Debugger

/-- The words up to the cursor, and the last of them, which may be empty. -/
structure Cursor where
  before : List String
  word : String
deriving DecidableEq, Repr

/-- Whether a text ends with a space or a tab. -/
def endsWithSpacing (text : List Char) : Bool := text.getLast?.any isSpacing

/-- The words in front of a cursor. The outer level is empty if the text has no words, the inner one
if there are none. -/
def cursor? (line : String) (position : Nat) : Option (Option Cursor) := do
  let (front, _) ← Text.splitAtByte? position line.toList
  let words ← Text.splitWords? (String.ofList front)
  if endsWithSpacing front then return some ⟨words, ""⟩
  else return words.getLast?.map fun word => ⟨words.dropLast, word⟩

/-- The candidates for a word at a cursor, sorted. -/
def Cursor.candidates (cursor : Cursor) (breakpoints : List Address) : List String :=
  (grammar breakpoints).candidates cursor.before cursor.word

/-- What can replace the text from a place up to the cursor. -/
structure Completion where
  start : Nat
  candidates : List String
deriving DecidableEq, Repr

/-- The completion of a line at a cursor. -/
def complete (breakpoints : List Address) (line : String) (position : Nat) : Completion :=
  match cursor? line position with
  | none => ⟨0, []⟩
  | some none => ⟨position, []⟩
  | some (some cursor) =>
    ⟨position - cursor.word.utf8ByteSize, cursor.candidates breakpoints⟩

/-- What is missing of the only candidate, at the end of a line. -/
def hint? (breakpoints : List Address) (line : String) (position : Nat) : Option String :=
  if position < line.utf8ByteSize then none
  else
    match cursor? line position with
    | some (some cursor) =>
      match cursor.candidates breakpoints with
      | [only] =>
        (Text.splitAtByte? cursor.word.utf8ByteSize only.toList).map fun (_, rest) =>
          String.ofList rest
      | _ => none
    | _ => none

end Chip8.Debugger
