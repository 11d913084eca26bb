/-! # Numbers in a base

Digits are written in lower case above nine, with zeros in front up to a least width; a longer
number keeps all its digits. They are read in either case.
-/

namespace Chip8.Text

/-- The digits of `value`, with zeros in front up to `width` digits. -/
def digits (base width value : Nat) : List Char :=
  let plain := Nat.toDigits base value
  List.replicate (width - plain.length) '0' ++ plain

/-- The hexadecimal digits of `value`, at least `width` of them, without a marker. -/
def hex (width value : Nat) : String := String.ofList (digits 16 width value)

/-- A hexadecimal literal: the marker, then at least `width` digits. -/
def hexLiteral (width value : Nat) : String := "0x" ++ hex width value

/-- A binary literal: the marker, then at least `width` digits. -/
def binaryLiteral (width value : Nat) : String := "0b" ++ String.ofList (digits 2 width value)

/-- The form every address is shown in: a literal of at least three digits. -/
def addressText (value : Nat) : String := hexLiteral 3 value

def upperHexDigit (value : Nat) : Char := (Nat.digitChar value).toUpper

def isHexDigit (c : Char) : Bool :=
  c.isDigit || ('a' ≤ c && c ≤ 'f') || ('A' ≤ c && c ≤ 'F')

def isBinaryDigit (c : Char) : Bool := c == '0' || c == '1'

/-- The value of a digit in either case. -/
def digitValue (c : Char) : Nat :=
  if c.isDigit then c.toNat - '0'.toNat
  else if 'a' ≤ c then c.toNat - 'a'.toNat + 10
  else c.toNat - 'A'.toNat + 10

/-- The number that some digits write in a base. -/
def digitsValue (base : Nat) (digits : List Char) : Nat :=
  digits.foldl (fun value c => base * value + digitValue c) 0

/-- A number without its plus sign, if it has one. -/
def withoutPlus : List Char → List Char
  | '+' :: digits => digits
  | digits => digits

/-- The byte that hexadecimal digits write, behind at most one plus sign. -/
def byteOfHex? (text : List Char) : Option UInt8 :=
  let digits := withoutPlus text
  if digits.isEmpty || !digits.all isHexDigit then none
  else
    let value := digitsValue 16 digits
    if value < UInt8.size then some (UInt8.ofNat value) else none

@[simp] theorem length_digits (base width value : Nat) :
    (digits base width value).length = max width (Nat.toDigits base value).length := by
  simp only [digits, List.length_append, List.length_replicate]
  omega

end Chip8.Text
