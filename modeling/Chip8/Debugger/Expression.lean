import Chip8.Machine
import Chip8.Text.Blank

/-! # Numbers and addresses as the debugger reads them

A number is a hexadecimal literal behind `0x`, a binary one behind `0b`, or decimal digits. An
address is a number, or `pc` or `i` in any case with an optional offset. Spaces and tabs may stand
around either and around the sign of an offset. A text that is not read to its end is refused
together with the place where reading stopped and what was tried there.
-/

namespace Chip8.Debugger

inductive Attempt where
  | digit
  | wordSize
  | base
  | alternatives
  | ending
deriving DecidableEq, Repr

def Attempt.text : Attempt → String
  | .digit => "Digit"
  | .wordSize => "MapRes"
  | .base => "Tag"
  | .alternatives => "Alt"
  | .ending => "Eof"

/-- A refused text: the part that was left when reading stopped, and the attempts made there. -/
structure Unreadable where
  text : List Char
  rest : List Char
  attempts : List Attempt
deriving DecidableEq, Repr

namespace Unreadable

/-- What stands before the place where reading stopped. -/
def before (problem : Unreadable) : List Char :=
  problem.text.take (problem.text.length - problem.rest.length)

/-- The part of the line in front of that place. -/
def lineBefore (problem : Unreadable) : List Char :=
  (problem.before.reverse.takeWhile (· != '\n')).reverse

/-- One attempt: the place as a line number, the line, and a caret under the place. -/
def attemptText (problem : Unreadable) (index : Nat) (attempt : Attempt) : String :=
  if problem.text.isEmpty then
    s!"{index}: in {attempt.text}, got empty input\n\n"
  else
    let number := problem.before.count '\n' + 1
    let line := Text.dropTrailingBlanks
      (problem.lineBefore ++ problem.rest.takeWhile (· != '\n'))
    let margin := (String.ofList problem.lineBefore).utf8ByteSize
    String.join [s!"{index}: at line {number}, in {attempt.text}:\n", String.ofList line, "\n",
      String.ofList (List.replicate margin ' '), "^\n\n"]

def message (problem : Unreadable) : String :=
  "could not parse expression: " ++
    String.join (problem.attempts.mapIdx problem.attemptText)

end Unreadable

/-- The two characters that may surround an expression and the sign of an offset. -/
def isSpacing (c : Char) : Bool := c == ' ' || c == '\t'

def skipSpacing (text : List Char) : List Char := text.dropWhile isSpacing

/-- A number that fits a word, and the text behind its digits. -/
def readDigits (base : Nat) (isDigit : Char → Bool) (text : List Char) :
    Except Attempt (Word × List Char) :=
  let digits := text.takeWhile isDigit
  let value := Text.digitsValue base digits
  if digits.isEmpty then .error .digit
  else if value < UInt16.size then .ok (UInt16.ofNat value, text.dropWhile isDigit)
  else .error .wordSize

/-- A literal behind a marker, if its digits make a number that fits a word. -/
def readMarked? (text : List Char) : Option (Word × List Char) :=
  match text with
  | '0' :: marker :: rest =>
    if marker == 'x' || marker == 'X' then (readDigits 16 Text.isHexDigit rest).toOption
    else if marker == 'b' || marker == 'B' then (readDigits 2 Text.isBinaryDigit rest).toOption
    else none
  | _ => none

/-- A number at the front of a text, and the text behind it. -/
def readNumber (text : List Char) : Except Attempt (Word × List Char) :=
  match readMarked? text with
  | some result => .ok result
  | none => readDigits 10 Char.isDigit text

/-- A register that an address can be relative to. -/
inductive Base where
  | pc
  | i
deriving DecidableEq, Repr

/-- An address as it is written. -/
inductive AddressExpr where
  | direct (address : Address)
  | relative (base : Base) (offset : Int)
deriving DecidableEq, Repr

/-- The base at the front of a text, and the text behind it. -/
def readBase? (text : List Char) : Option (Base × List Char) :=
  match text with
  | [] => none
  | first :: rest =>
    match first.toLower, rest with
    | 'p', second :: rest => if second.toLower == 'c' then some (.pc, rest) else none
    | 'i', rest => some (.i, rest)
    | _, _ => none

/-- A signed number at the front of a text, and the text behind it. -/
def readOffset? (text : List Char) : Option (Int × List Char) :=
  match skipSpacing text with
  | sign :: rest =>
    if sign == '+' || sign == '-' then
      match readNumber (skipSpacing rest) with
      | .ok (size, rest) =>
        some (if sign == '-' then -(size.toNat : Int) else size.toNat, rest)
      | .error _ => none
    else none
  | [] => none

/-- An address at the front of a text, and the text behind it. -/
def readAddress (text : List Char) : Except (List Attempt) (AddressExpr × List Char) :=
  match readNumber text with
  | .ok (address, rest) => .ok (.direct address, rest)
  | .error _ =>
    match readBase? text with
    | none => .error [.base, .alternatives, .alternatives]
    | some (base, rest) =>
      match readOffset? rest with
      | some (offset, rest) => .ok (.relative base offset, rest)
      | none => .ok (.relative base 0, rest)

/-- Read a whole text, apart from the spacing around what is read. -/
def readWhole {α : Type} (read : List Char → Except (List Attempt) (α × List Char))
    (text : String) : Except Unreadable α :=
  let start := skipSpacing text.toList
  match read start with
  | .error attempts => .error ⟨text.toList, start, attempts⟩
  | .ok (value, rest) =>
    let rest := skipSpacing rest
    if rest.isEmpty then .ok value else .error ⟨text.toList, rest, [.ending]⟩

def numberOfText (text : String) : Except Unreadable Word :=
  readWhole (fun text => (readNumber text).mapError ([·, .alternatives])) text

namespace AddressExpr

def ofText (text : String) : Except Unreadable AddressExpr := readWhole readAddress text

/-- A sum that is no address. -/
structure OutOfRange where
  place : Int
deriving DecidableEq, Repr

def OutOfRange.message (problem : OutOfRange) : String :=
  s!"address {problem.place} is out of range"

def baseValue (registers : Registers) : Base → Address
  | .pc => registers.pc
  | .i => registers.i

/-- The place that an address names in a machine with the given registers. -/
def evaluate (registers : Registers) : AddressExpr → Except OutOfRange Address
  | .direct address => .ok address
  | .relative base offset =>
    let place := ((baseValue registers base).toNat : Int) + offset
    if 0 ≤ place ∧ place < (UInt16.size : Int) then .ok (UInt16.ofNat place.toNat)
    else .error ⟨place⟩

end AddressExpr

end Chip8.Debugger
