/-! # Text styles

A text between the codes that switch a terminal's style on and off.
-/

namespace Chip8.Text

/-- A text in a style, which a number stands for. -/
def styled (code : Nat) (text : String) : String := s!"\x1b[{code}m{text}\x1b[0m"

def bold (text : String) : String := styled 1 text

def dimmed (text : String) : String := styled 2 text

end Chip8.Text
