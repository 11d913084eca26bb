/-! # Blank characters

The characters with the Unicode property `White_Space`, and the text without those at its end.
-/

namespace Chip8.Text

/-- Whether a character has the property `White_Space`. -/
def isBlank (c : Char) : Bool :=
  let point := c.toNat
  (0x09 ≤ point && point ≤ 0x0D) || point == 0x20 || point == 0x85 || point == 0xA0 ||
    point == 0x1680 || (0x2000 ≤ point && point ≤ 0x200A) || point == 0x2028 ||
    point == 0x2029 || point == 0x202F || point == 0x205F || point == 0x3000

/-- The characters up to the last one that is not blank. -/
def dropTrailingBlanks (text : List Char) : List Char := (text.reverse.dropWhile isBlank).reverse

end Chip8.Text
