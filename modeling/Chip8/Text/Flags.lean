import Chip8.Text.Digits

/-! # Named bits

How a set of bits is shown: the names of the bits that are set, then whatever bits have no name as
one hexadecimal number, with a bar between two entries.
-/

namespace Chip8.Text

/-- The names whose bit is set, then the unnamed bits if there are any. -/
def flagsText (named : List (Bool × String)) (unnamed : Nat) : String :=
  let names := named.filterMap fun (on, name) => if on then some name else none
  let others := if unnamed = 0 then [] else [hexLiteral 1 unnamed]
  String.intercalate " | " (names ++ others)

end Chip8.Text
