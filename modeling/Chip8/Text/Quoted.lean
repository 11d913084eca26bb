import Chip8.Text.Digits
import Chip8.Text.Printable

/-! # Quoted text

A text between double quotes, on one line whatever it holds. Quotes and backslashes are escaped, the
usual controls have short escapes, and every character that cannot be seen or that would combine
with its neighbour is written by its code point.
-/

namespace Chip8.Text

/-- The written form of one character inside quotes. -/
def quotedChar (c : Char) : String :=
  match c with
  | '\x00' => "\\0"
  | '\t' => "\\t"
  | '\n' => "\\n"
  | '\r' => "\\r"
  | '"' => "\\\""
  | '\\' => "\\\\"
  | c =>
    if isCombining c || !isPrintable c then "\\u\x7b" ++ hex 1 c.toNat ++ "\x7d"
    else String.singleton c

def quoted (text : String) : String :=
  "\"" ++ String.join (text.toList.map quotedChar) ++ "\""

end Chip8.Text
