/-! # Text without control codes

What is left of a text for a terminal when the codes that steer the terminal are taken out. Controls
that are blanks stay, all others go, and an escape takes with it what belongs to its sequence. A
sequence that the text does not finish lasts to its end.
-/

namespace Chip8.Text

/-- Where a reader stands: in the text or in some part of a code. -/
inductive CodePlace where
  | text
  /-- Behind an escape. -/
  | escape
  /-- Behind an escape and some signs that say what its last character is for. -/
  | intermediate
  /-- In the parameters of a control sequence. -/
  | sequence
  /-- At the head of a string for a device, in its parameters, and in the signs behind these. -/
  | deviceHead
  | deviceParameter
  | deviceIntermediate
  /-- In a string that a string terminator ends. -/
  | string
  /-- In a command for the terminal's system, which a bell ends. -/
  | command
deriving DecidableEq, Repr

def isBlankControl (c : Char) : Bool := c == '\t' || c == '\n' || c == '\x0c' || c == '\r'

/-- Whether the bytes of a character beyond the plain ones hold the string terminator, which is
looked for without regard to characters. -/
def holdsTerminator (c : Char) : Bool := 0x80 ≤ c.toNat && (String.utf8EncodeChar c).contains 0x9C

namespace CodePlace

/-- Whether the blanks at a place belong to the text. They end a code that they interrupt. -/
def keepsBlanks : CodePlace → Bool
  | .text | .escape | .intermediate | .sequence => true
  | _ => false

/-- Where an escape leads with the character behind it. -/
def ofIntroducer (c : Char) : CodePlace :=
  match c with
  | '[' => .sequence
  | ']' => .command
  | 'P' => .deviceHead
  | 'X' | '^' | '_' => .string
  | c =>
    if 0x20 ≤ c.toNat && c.toNat < 0x30 then .intermediate
    else if 0x30 ≤ c.toNat && c.toNat < 0x7F then .text
    else .escape

/-- Where the head of a string for a device leads with a character, from its own place. -/
def inDeviceHead (place : CodePlace) (c : Char) : CodePlace :=
  if c.toNat < 0x20 || 0x7F ≤ c.toNat then place
  else if c.toNat < 0x30 then .deviceIntermediate
  else if 0x40 ≤ c.toNat || c == ':' || place == .deviceIntermediate then .string
  else if 0x3C ≤ c.toNat && place == .deviceParameter then .string
  else .deviceParameter

/-- Where the reader stands behind a character that is not part of the text. An escape begins a
code anywhere, and two controls end whatever there is. -/
def next (place : CodePlace) (c : Char) : CodePlace :=
  if c == '\x1b' then .escape
  else if c == '\x18' || c == '\x1a' then .text
  else
    match place with
    | .text => .text
    | .escape => ofIntroducer c
    | .intermediate => if 0x30 ≤ c.toNat && c.toNat < 0x7F then .text else .intermediate
    | .sequence => if 0x40 ≤ c.toNat && c.toNat < 0x7F then .text else .sequence
    | .deviceHead | .deviceParameter | .deviceIntermediate => place.inDeviceHead c
    | .string => if holdsTerminator c then .text else .string
    | .command => if c == '\x07' then .text else .command

end CodePlace

/-- A text without its codes, read from some place on. -/
def withoutCodesFrom (place : CodePlace) : List Char → List Char
  | [] => []
  | c :: rest =>
    if isBlankControl c && place.keepsBlanks then c :: withoutCodesFrom .text rest
    else if place == .text && 0x20 ≤ c.toNat && c.toNat != 0x7F then
      c :: withoutCodesFrom .text rest
    else withoutCodesFrom (place.next c) rest

def withoutCodes (text : String) : String := String.ofList (withoutCodesFrom .text text.toList)

end Chip8.Text
