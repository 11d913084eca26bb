import Chip8.Keypad
import Chip8.Memory

/-! # Faults

What can halt the machine. No fault is recovered from: only loading a program starts the machine
again. Each fault has a sentence and a number.
-/

namespace Chip8

/-- Why the machine halted. -/
inductive Fault where
  | romTooLarge (size limit : Nat)
  | stackUnderflow
  | invalidKey (key : UInt8)
  | stackOverflow
  | unknownOpcode (opcode : Word) (address : Address)
  | invalidMemoryAccess (address : Nat)
deriving DecidableEq, Repr

namespace Fault

/-- The number of a fault, which is also the exit status of a run that it ends. -/
def code : Fault → Nat
  | .romTooLarge .. => 1
  | .stackUnderflow => 2
  | .invalidKey _ => 3
  | .stackOverflow => 4
  | .unknownOpcode .. => 5
  | .invalidMemoryAccess _ => 6

def message : Fault → String
  | .romTooLarge size limit => s!"ROM is {size} bytes long, at most {limit} bytes fit in memory"
  | .stackUnderflow => "stack underflow: return with an empty call stack"
  | .invalidKey key => s!"invalid key index {key}, keys go from 0 to 15"
  | .stackOverflow => "stack overflow: call with a full call stack"
  | .unknownOpcode opcode address =>
      s!"unknown opcode {Text.hexLiteral 4 opcode.toNat} at {Text.addressText address.toNat}"
  | .invalidMemoryAccess address =>
      s!"invalid memory access ({(Memory.Refusal.invalidAddress address).message})"

def ofRefusal : Memory.Refusal → Fault
  | .invalidAddress address => .invalidMemoryAccess address
  | .programTooLarge size limit => .romTooLarge size limit

def ofInvalidKey (problem : Keypad.InvalidKey) : Fault := .invalidKey problem.key

end Fault

end Chip8
