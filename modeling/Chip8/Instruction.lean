import Chip8.Registers

/-! # Instructions

The instruction set as data, and its two-byte form. Operands have exactly the range that the form
gives them. The main statement, `code_of_decode?`, says that decoding forgets nothing: the word can
be computed from the instruction.
-/

namespace Chip8

/-- A twelve-bit address operand. -/
abbrev Target := Fin 0x1000

/-- A four-bit count. -/
abbrev RowCount := Fin 16

/-- One instruction with its operands. -/
inductive Instruction where
  /-- `00E0`: clear the screen. -/
  | clear
  /-- `00EE`: return from a subroutine. -/
  | ret
  /-- `1NNN`: jump. -/
  | jump (target : Target)
  /-- `2NNN`: enter a subroutine. -/
  | call (target : Target)
  /-- `3XNN`: skip if a register has a value. -/
  | skipEqByte (x : VIndex) (byte : UInt8)
  /-- `4XNN`: skip unless a register has a value. -/
  | skipNeByte (x : VIndex) (byte : UInt8)
  /-- `5XY0`: skip if two registers agree. -/
  | skipEq (x y : VIndex)
  /-- `9XY0`: skip unless two registers agree. -/
  | skipNe (x y : VIndex)
  /-- `6XNN`: put a value into a register. -/
  | setByte (x : VIndex) (byte : UInt8)
  /-- `7XNN`: add a value, without a carry. -/
  | addByte (x : VIndex) (byte : UInt8)
  /-- `8XY0`: copy a register. -/
  | copy (x y : VIndex)
  /-- `8XY1`: bitwise or. -/
  | bitOr (x y : VIndex)
  /-- `8XY2`: bitwise and. -/
  | bitAnd (x y : VIndex)
  /-- `8XY3`: bitwise exclusive or. -/
  | bitXor (x y : VIndex)
  /-- `8XY4`: add, the carry in the flag register. -/
  | add (x y : VIndex)
  /-- `8XY5`: subtract, no borrow in the flag register. -/
  | sub (x y : VIndex)
  /-- `8XY6`: shift right, the lost bit in the flag register. -/
  | shiftRight (x y : VIndex)
  /-- `8XY7`: subtract the other way round. -/
  | subFrom (x y : VIndex)
  /-- `8XYE`: shift left, the lost bit in the flag register. -/
  | shiftLeft (x y : VIndex)
  /-- `ANNN`: point the index at an address. -/
  | setIndex (target : Target)
  /-- `BNNN`: jump to an address plus `V0`. -/
  | jumpOffset (target : Target)
  /-- `CXNN`: a random byte under a mask. -/
  | random (x : VIndex) (mask : UInt8)
  /-- `DXYN`: draw a sprite of some rows. -/
  | draw (x y : VIndex) (rows : RowCount)
  /-- `EX9E`: skip if a key is down. -/
  | skipDown (x : VIndex)
  /-- `EXA1`: skip if a key is up. -/
  | skipUp (x : VIndex)
  /-- `FX07`: read the delay timer. -/
  | readDelay (x : VIndex)
  /-- `FX0A`: wait for a key. -/
  | waitKey (x : VIndex)
  /-- `FX15`: set the delay timer. -/
  | setDelay (x : VIndex)
  /-- `FX18`: set the sound timer. -/
  | setSound (x : VIndex)
  /-- `FX1E`: move the index. -/
  | addIndex (x : VIndex)
  /-- `FX29`: point the index at a small glyph. -/
  | smallGlyph (x : VIndex)
  /-- `FX30`: point the index at a large glyph. -/
  | largeGlyph (x : VIndex)
  /-- `FX33`: write the three decimal digits of a register. -/
  | decimal (x : VIndex)
  /-- `FX55`: write the registers up to one to memory. -/
  | store (x : VIndex)
  /-- `FX65`: read the registers up to one from memory. -/
  | load (x : VIndex)
deriving DecidableEq, Repr

namespace Instruction

/-- The last hexadecimal digit of a number. -/
def lastDigit (n : Nat) : Fin 16 := ⟨n % 16, Nat.mod_lt n (by decide)⟩

/-- The last three hexadecimal digits of a number. -/
def lastTarget (n : Nat) : Target := ⟨n % 0x1000, Nat.mod_lt n (by decide)⟩

/-- The instruction that a word stands for, if it stands for one. -/
def decode? (word : Word) : Option Instruction :=
  let n := word.toNat
  let x : VIndex := lastDigit (n / 0x100)
  let y : VIndex := lastDigit (n / 0x10)
  let byte : UInt8 := UInt8.ofNat n
  let target : Target := lastTarget n
  match n / 0x1000 with
  | 0x0 =>
    if n = 0x00E0 then some clear
    else if n = 0x00EE then some ret
    else none
  | 0x1 => some (jump target)
  | 0x2 => some (call target)
  | 0x3 => some (skipEqByte x byte)
  | 0x4 => some (skipNeByte x byte)
  | 0x5 => if n % 0x10 = 0 then some (skipEq x y) else none
  | 0x6 => some (setByte x byte)
  | 0x7 => some (addByte x byte)
  | 0x8 =>
    match n % 0x10 with
    | 0x0 => some (copy x y)
    | 0x1 => some (bitOr x y)
    | 0x2 => some (bitAnd x y)
    | 0x3 => some (bitXor x y)
    | 0x4 => some (add x y)
    | 0x5 => some (sub x y)
    | 0x6 => some (shiftRight x y)
    | 0x7 => some (subFrom x y)
    | 0xE => some (shiftLeft x y)
    | _ => none
  | 0x9 => if n % 0x10 = 0 then some (skipNe x y) else none
  | 0xA => some (setIndex target)
  | 0xB => some (jumpOffset target)
  | 0xC => some (random x byte)
  | 0xD => some (draw x y (lastDigit n))
  | 0xE =>
    match n % 0x100 with
    | 0x9E => some (skipDown x)
    | 0xA1 => some (skipUp x)
    | _ => none
  | 0xF =>
    match n % 0x100 with
    | 0x07 => some (readDelay x)
    | 0x0A => some (waitKey x)
    | 0x15 => some (setDelay x)
    | 0x18 => some (setSound x)
    | 0x1E => some (addIndex x)
    | 0x29 => some (smallGlyph x)
    | 0x30 => some (largeGlyph x)
    | 0x33 => some (decimal x)
    | 0x55 => some (store x)
    | 0x65 => some (load x)
    | _ => none
  | _ => none

/-- The number whose sixteen bits write an instruction. -/
def code : Instruction → Nat
  | clear => 0x00E0
  | ret => 0x00EE
  | jump target => 0x1000 + target
  | call target => 0x2000 + target
  | skipEqByte x byte => 0x3000 + 0x100 * x + byte.toNat
  | skipNeByte x byte => 0x4000 + 0x100 * x + byte.toNat
  | skipEq x y => 0x5000 + 0x100 * x + 0x10 * y
  | setByte x byte => 0x6000 + 0x100 * x + byte.toNat
  | addByte x byte => 0x7000 + 0x100 * x + byte.toNat
  | copy x y => 0x8000 + 0x100 * x + 0x10 * y
  | bitOr x y => 0x8001 + 0x100 * x + 0x10 * y
  | bitAnd x y => 0x8002 + 0x100 * x + 0x10 * y
  | bitXor x y => 0x8003 + 0x100 * x + 0x10 * y
  | add x y => 0x8004 + 0x100 * x + 0x10 * y
  | sub x y => 0x8005 + 0x100 * x + 0x10 * y
  | shiftRight x y => 0x8006 + 0x100 * x + 0x10 * y
  | subFrom x y => 0x8007 + 0x100 * x + 0x10 * y
  | shiftLeft x y => 0x800E + 0x100 * x + 0x10 * y
  | skipNe x y => 0x9000 + 0x100 * x + 0x10 * y
  | setIndex target => 0xA000 + target
  | jumpOffset target => 0xB000 + target
  | random x mask => 0xC000 + 0x100 * x + mask.toNat
  | draw x y rows => 0xD000 + 0x100 * x + 0x10 * y + rows
  | skipDown x => 0xE09E + 0x100 * x
  | skipUp x => 0xE0A1 + 0x100 * x
  | readDelay x => 0xF007 + 0x100 * x
  | waitKey x => 0xF00A + 0x100 * x
  | setDelay x => 0xF015 + 0x100 * x
  | setSound x => 0xF018 + 0x100 * x
  | addIndex x => 0xF01E + 0x100 * x
  | smallGlyph x => 0xF029 + 0x100 * x
  | largeGlyph x => 0xF030 + 0x100 * x
  | decimal x => 0xF033 + 0x100 * x
  | store x => 0xF055 + 0x100 * x
  | load x => 0xF065 + 0x100 * x

/-- A decoded word is the written form of what it decodes to. -/
theorem code_of_decode? {word : Word} {instruction : Instruction}
    (decoded : decode? word = some instruction) : instruction.code = word.toNat := by
  have bound := word.toNat_lt
  unfold decode? at decoded
  simp only at decoded
  split at decoded
  all_goals try split at decoded
  all_goals try split at decoded
  all_goals
    first
      | contradiction
      | (cases decoded; simp only [code, lastDigit, lastTarget, UInt8.toNat_ofNat']; omega)

/-- Two words that decode to one instruction are the same word. -/
theorem decode?_injective {left right : Word} {instruction : Instruction}
    (first : decode? left = some instruction) (second : decode? right = some instruction) :
    left = right :=
  UInt16.toNat_inj.mp ((code_of_decode? first).symm.trans (code_of_decode? second))

end Instruction

end Chip8
