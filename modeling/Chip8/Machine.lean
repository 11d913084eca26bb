import Chip8.Dialect
import Chip8.Fault
import Chip8.Instruction
import Chip8.Random
import Chip8.Registers
import Chip8.Status
import Chip8.Timers

/-! # The machine

The whole state of the virtual machine, how it is reset, and what stands at an address. Executing
instructions and talking to a host are the subject of the modules below this one.
-/

namespace Chip8

/-- Whether the processor fetches instructions or waits for a key. -/
inductive Mode where
  | running
  /-- Blocked until a key is down, whose number then goes into a register. -/
  | waitingForKey (x : VIndex)
deriving DecidableEq, Repr

/-- The state of the virtual machine. -/
structure Machine where
  registers : Registers
  memory : Memory
  timers : Timers
  keypad : Keypad
  status : Status
  dialect : Dialect
  mode : Mode
  /-- Instructions completed since the program was loaded. -/
  cycles : Nat
  fault : Option Fault
  random : RandomSource

namespace Machine

/-- A machine without a program, drawing random bytes from a source. -/
def initial (random : RandomSource) : Machine where
  registers := .initial
  memory := .initial
  timers := {}
  keypad := .released
  status := .empty
  dialect := {}
  mode := .running
  cycles := 0
  fault := none
  random

/-- Start over under a dialect. Only the source of random bytes goes on from where it was. -/
def reset (machine : Machine) (dialect : Dialect) : Machine :=
  { initial machine.random with dialect }

def isRunning (machine : Machine) : Bool := machine.status.running

def isPaused (machine : Machine) : Bool := machine.status.paused

def withRegisters (machine : Machine) (registers : Registers) : Machine :=
  { machine with registers }

/-- The instruction at an address, or the fault of executing what is there. -/
def instructionAt (machine : Machine) (address : Address) : Except Fault Instruction :=
  match machine.memory.readWord address with
  | .error refusal => .error (.ofRefusal refusal)
  | .ok word =>
    match Instruction.decode? word with
    | some instruction => .ok instruction
    | none => .error (.unknownOpcode word address)

end Machine

end Chip8
