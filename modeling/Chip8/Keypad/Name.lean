import Chip8.Keypad
import Chip8.Text.Quoted

/-! # Key names

A key is called by its number as a hexadecimal digit. Zeros in front and one plus sign are
tolerated, either case is read and lower case is shown.
-/

namespace Chip8.Keypad

def keyOfText? (text : String) : Option UInt8 :=
  (Text.byteOfHex? text.toList).filter fun key => key.toNat < keyCount

def unknownMessage (text : String) : String :=
  s!"invalid key {Text.quoted text}, expected a hex digit"

def names : List String := (List.range keyCount).map fun key => Text.hex 1 key

end Chip8.Keypad
