import Chip8.Machine

/-! # One line about a machine

A text of the fields that change from one moment to the next, memory left out. Every stack slot is
listed, also the free ones.
-/

namespace Chip8

def listText (numbers : List Nat) : String :=
  "[" ++ String.intercalate ", " (numbers.map toString) ++ "]"

/-- The registers and the whole stack. -/
def Registers.summary (registers : Registers) : String :=
  String.join ["Registers \x7b v: ", listText (registers.v.toList.map UInt8.toNat),
    s!", i: {registers.i}, pc: {registers.pc}, stack: ",
    listText (registers.stack.toList.map UInt16.toNat), s!", sp: {registers.sp} \x7d"]

def Timers.summary (timers : Timers) : String :=
  s!"Timers \x7b delay: {timers.delay}, sound: {timers.sound} \x7d"

def Keypad.summary (keypad : Keypad) : String := s!"Keypad({keypad.bits.toNat})"

/-- What the processor is doing. -/
def Mode.text : Mode → String
  | .running => "Running"
  | .waitingForKey x => s!"WaitingForKey(V({x.val}))"

def Machine.summary (machine : Machine) : String :=
  String.join ["Machine \x7b registers: ", machine.registers.summary,
    ", timers: ", machine.timers.summary, ", keypad: ", machine.keypad.summary,
    ", status: ", machine.status.binaryText, ", mode: ", machine.mode.text,
    ", memory: [...] \x7d"]

end Chip8
