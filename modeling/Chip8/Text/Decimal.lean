/-! # Whole numbers in decimal

Reading a number that has to fit a range. The digits are read from the left and the first problem
wins: a character that is no digit, or a digit with which the number leaves the range.
-/

namespace Chip8.Text

/-- Why a text is not a number of the wanted range. -/
inductive NotANumber where
  | empty
  | invalidDigit
  | tooLarge
  | tooSmall
deriving DecidableEq, Repr

def NotANumber.message : NotANumber → String
  | .empty => "cannot parse integer from empty string"
  | .invalidDigit => "invalid digit found in string"
  | .tooLarge => "number too large to fit in target type"
  | .tooSmall => "number too small to fit in target type"

/-- Read digits behind those that made `value`, up to a limit. -/
def readDecimal (limit : Nat) (beyond : NotANumber) (value : Nat) :
    List Char → Except NotANumber Nat
  | [] => .ok value
  | c :: rest =>
    if c.isDigit then
      let value := 10 * value + (c.toNat - '0'.toNat)
      if value ≤ limit then readDecimal limit beyond value rest else .error beyond
    else .error .invalidDigit

/-- A number without a sign or behind a plus sign. -/
def unsignedOfText (limit : Nat) (text : String) : Except NotANumber Nat :=
  match text.toList with
  | [] => .error .empty
  | ['+'] => .error .invalidDigit
  | '+' :: digits => readDecimal limit .tooLarge 0 digits
  | digits => readDecimal limit .tooLarge 0 digits

abbrev maxUnsigned64 : Nat := 18446744073709551615

abbrev maxSigned64 : Nat := 9223372036854775807

/-- A number that may be negative, in sixty-four bits. -/
def signedOfText (text : String) : Except NotANumber Int :=
  match text.toList with
  | ['-'] => .error .invalidDigit
  | '-' :: digits => (readDecimal (maxSigned64 + 1) .tooSmall 0 digits).map fun n => -(n : Int)
  | _ => (unsignedOfText maxSigned64 text).map Int.ofNat

/-- The number of a text that is neither negative nor above a limit, or the complaint. -/
def boundedOfText (limit : Nat) (text : String) : Except String Nat :=
  match signedOfText text with
  | .error reason => .error reason.message
  | .ok n =>
    if 0 ≤ n ∧ n ≤ limit then .ok n.toNat else .error s!"{n} is not in 0..={limit}"

end Chip8.Text
