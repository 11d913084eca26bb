import Chip8.Host
import Chip8.Screen.Frame

/-! # Terminals

A host that keeps its screen in memory and takes its key events from a queue filled in advance, one
event a poll. It counts the frames that it presented and how often the buzzer started.
-/

namespace Chip8

structure Terminal where
  frame : Frame := Frame.blank
  frames : Nat := 0
  pending : List KeyEvent := []
  beeps : Nat := 0
deriving DecidableEq, Repr

namespace Terminal

/-- A terminal that will press the given keys, one a poll. -/
def holding (keys : List UInt8) : Terminal := { pending := keys.map fun key => ⟨key, true⟩ }

def present (terminal : Terminal) (signal : Signal) : Terminal :=
  { terminal with
    frame := if signal.clear then Frame.blank else terminal.frame
    frames := if signal.update then terminal.frames + 1 else terminal.frames }

instance : Host Terminal where
  drawPixel terminal x y :=
    (terminal.frame.isLit x y, { terminal with frame := terminal.frame.toggle x y })
  screen := present
  poll terminal input :=
    match terminal.pending with
    | [] => (input, terminal)
    | event :: rest => ({ input with key := some event }, { terminal with pending := rest })
  sound terminal active :=
    if active then { terminal with beeps := terminal.beeps + 1 } else terminal
  reportFault terminal _ := terminal

end Terminal

end Chip8
