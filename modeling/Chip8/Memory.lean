import Chip8.Memory.Glyphs
import Chip8.Text.Digits

/-! # Memory

A fixed block of bytes with the glyphs in its low part. A range is checked as a whole before any of
it is read or written, so a refused write changes nothing. The main statements say what a byte is
after a write: inside the range the written byte, outside the byte that was there.
-/

namespace Chip8

/-- The bytes that a program sees. -/
structure Memory where
  bytes : Vector UInt8 memorySize
deriving DecidableEq, Repr

namespace Memory

/-- Why memory refuses an access or a program. -/
inductive Refusal where
  | invalidAddress (address : Nat)
  | programTooLarge (size limit : Nat)
deriving DecidableEq, Repr

def Refusal.message : Refusal → String
  | .invalidAddress address => s!"invalid address {Text.addressText address}"
  | .programTooLarge size limit =>
      s!"program is {size} bytes long, at most {limit} bytes fit in memory"

/-- Put bytes one after the other from `start` on, dropping those that would fall outside. -/
def splice (bytes : Vector UInt8 memorySize) (start : Nat) :
    List UInt8 → Vector UInt8 memorySize
  | [] => bytes
  | byte :: rest => splice (bytes.setIfInBounds start byte) (start + 1) rest

/-- Memory before any program: the glyphs, and zeros elsewhere. -/
def initial : Memory :=
  ⟨splice (splice (Vector.replicate memorySize 0) fontStart smallGlyphs) bigFontStart largeGlyphs⟩

/-- The byte at an address, if memory reaches that far. -/
def get? (memory : Memory) (address : Nat) : Option UInt8 := memory.bytes[address]?

def read (memory : Memory) (address : Nat) : Except Refusal UInt8 :=
  match memory.get? address with
  | some byte => .ok byte
  | none => .error (.invalidAddress address)

/-- The word at an address, high byte first. The first of the two bytes out of memory is named. -/
def readWord (memory : Memory) (address : Address) : Except Refusal Word := do
  let high ← memory.read address.toNat
  let low ← memory.read (address.toNat + 1)
  return (high.toUInt16 <<< 8) ||| low.toUInt16

/-- The bytes of a range. A range that leaves memory is refused under its last address. -/
def readRange (memory : Memory) (start length : Nat) : Except Refusal (List UInt8) :=
  if within : start + length ≤ memorySize then
    .ok (List.ofFn fun offset : Fin length => memory.bytes[start + offset.val])
  else
    .error (.invalidAddress (start + length - 1))

/-- Replace the bytes of a range, or refuse the whole range under its last address. -/
def writeRange (memory : Memory) (start : Nat) (bytes : List UInt8) : Except Refusal Memory :=
  if start + bytes.length ≤ memorySize then
    .ok ⟨splice memory.bytes start bytes⟩
  else
    .error (.invalidAddress (start + bytes.length - 1))

def write (memory : Memory) (address : Nat) (byte : UInt8) : Except Refusal Memory :=
  if address < memorySize then
    .ok ⟨memory.bytes.setIfInBounds address byte⟩
  else
    .error (.invalidAddress address)

/-- Copy a program to its place. One that is too long is refused and leaves memory as it was. -/
def loadProgram (memory : Memory) (program : List UInt8) : Except Refusal Memory :=
  if program.length ≤ maxProgramSize then
    .ok ⟨splice memory.bytes programStart program⟩
  else
    .error (.programTooLarge program.length maxProgramSize)

/-- A short text for a memory, which does not list its bytes. -/
def summary (_ : Memory) : String := s!"Memory \x7b [{memorySize} bytes] \x7d"

@[ext]
theorem ext {left right : Memory} (same : ∀ address, left.get? address = right.get? address) :
    left = right := by
  rcases left with ⟨left⟩
  rcases right with ⟨right⟩
  congr
  apply Vector.ext
  intro address bound
  simpa [get?, bound] using same address

theorem getElem?_splice (bytes : Vector UInt8 memorySize) (start address : Nat)
    (new : List UInt8) (within : start + new.length ≤ memorySize) :
    (splice bytes start new)[address]? =
      if start ≤ address ∧ address < start + new.length then new[address - start]?
      else bytes[address]? := by
  induction new generalizing bytes start with
  | nil =>
    rw [splice, if_neg]
    simp only [List.length_nil]
    omega
  | cons byte rest ih =>
    simp only [List.length_cons] at within
    rw [splice, ih _ _ (by omega)]
    by_cases here : address = start
    · subst here
      rw [if_neg (by omega), if_pos (by simp only [List.length_cons]; omega), Nat.sub_self,
        List.getElem?_cons_zero]
      simp [show address < memorySize by omega]
    · simp only [List.length_cons]
      by_cases inside : start + 1 ≤ address ∧ address < start + 1 + rest.length
      · rw [if_pos inside, if_pos (by omega),
          show address - start = address - (start + 1) + 1 by omega, List.getElem?_cons_succ]
      · rw [if_neg inside, if_neg (by omega)]
        simp [Ne.symm here]

@[simp] theorem get?_eq_none_iff {memory : Memory} {address : Nat} :
    memory.get? address = none ↔ memorySize ≤ address := by
  simp [get?]

/-- What every byte is after a range was written. -/
theorem get?_of_writeRange {memory written : Memory} {start : Nat} {bytes : List UInt8}
    (done : memory.writeRange start bytes = .ok written) (address : Nat) :
    written.get? address =
      if start ≤ address ∧ address < start + bytes.length then bytes[address - start]?
      else memory.get? address := by
  simp only [writeRange] at done
  split at done
  · cases done
    exact getElem?_splice _ _ _ _ ‹_›
  · contradiction

/-- What every byte is after a program was copied. -/
theorem get?_of_loadProgram {memory loaded : Memory} {program : List UInt8}
    (done : memory.loadProgram program = .ok loaded) (address : Nat) :
    loaded.get? address =
      if programStart ≤ address ∧ address < programStart + program.length then
        program[address - programStart]?
      else memory.get? address := by
  simp only [loadProgram] at done
  split at done
  · have fits := programStart_add_maxProgramSize
    cases done
    exact getElem?_splice _ _ _ _ (by omega)
  · contradiction

theorem writeRange_eq_error_iff {memory : Memory} {start : Nat} {bytes : List UInt8}
    {refusal : Refusal} :
    memory.writeRange start bytes = .error refusal ↔
      memorySize < start + bytes.length ∧
        refusal = .invalidAddress (start + bytes.length - 1) := by
  unfold writeRange
  split <;> simp <;> grind

theorem readRange_eq_error_iff {memory : Memory} {start length : Nat} {refusal : Refusal} :
    memory.readRange start length = .error refusal ↔
      memorySize < start + length ∧ refusal = .invalidAddress (start + length - 1) := by
  unfold readRange
  split <;> simp <;> grind

end Memory

end Chip8
