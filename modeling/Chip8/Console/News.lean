import Chip8.Console
import Chip8.Event
import Chip8.Screen.Terminal

/-! # What happened meanwhile

The events of a console's own that lie between two of its states: the sounds that started, and the
fault that stopped the machine.
-/

namespace Chip8

def Machine.haltEvent (machine : Machine) (fault : Fault) : Event :=
  ⟨.error, s!"Halted: {fault.message}",
    [("code", toString fault.code), ("pc", toString machine.registers.pc)]⟩

namespace Console

/-- The events between two states of a console. -/
def newsSince (before after : Console Terminal) : List Event :=
  let sounds : List Event := List.replicate (after.host.beeps - before.host.beeps) (.info "Beep")
  match before.fault?, after.fault? with
  | none, some fault => sounds ++ [after.machine.haltEvent fault]
  | _, _ => sounds

end Console

end Chip8
