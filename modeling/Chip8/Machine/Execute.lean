import Chip8.Machine
import Chip8.Machine.Arithmetic
import Chip8.Machine.Sprite

/-! # Executing an instruction

What one instruction does to the machine and to the host while the program counter still points to
it, and where the program goes on. A fault leaves everything as it was, except that a sprite clears
the flag register before its rows are fetched.
-/

namespace Chip8

universe u

variable {η : Type u}

/-- Where the program goes on after an instruction. -/
inductive Flow where
  | next
  /-- Leave out the next instruction. -/
  | skip
  | jump (target : Address)
  /-- Stay here until a key is down, then put it into a register. -/
  | waitForKey (x : VIndex)
deriving DecidableEq, Repr

/-- The state after an instruction, and where the program goes on or why it cannot. -/
structure Effect (η : Type u) where
  machine : Machine
  host : η
  outcome : Except Fault Flow

namespace Machine

/-- The register whose value a shift reads. -/
def shiftSource (machine : Machine) (x y : VIndex) : VIndex :=
  if machine.dialect.shiftVxOnly then x else y

def setBitwise (machine : Machine) (x : VIndex) (value : UInt8) : Machine :=
  let registers := machine.registers.set x value
  machine.withRegisters (if machine.dialect.vfReset then registers.setFlag false else registers)

/-- Move the index past a block of registers, in the dialects that do so. -/
def advanceIndex (machine : Machine) (x : VIndex) : Machine :=
  if machine.dialect.incrementIndex then
    machine.withRegisters { machine.registers with
      i := machine.registers.i + UInt16.ofNat (x.val + 1) }
  else machine

def decimalDigits (value : UInt8) : List UInt8 := [value / 100, value / 10 % 10, value % 10]

/-- Draw a sprite from memory at the index. -/
def drawSprite [Host η] (machine : Machine) (host : η) (x y : VIndex) (rows : RowCount) :
    Effect η :=
  let column := (machine.registers.get x).toNat
  let line := (machine.registers.get y).toNat
  let machine := machine.withRegisters (machine.registers.setFlag false)
  match machine.memory.readRange machine.registers.i.toNat rows.val with
  | .error refusal => ⟨machine, host, .error (.ofRefusal refusal)⟩
  | .ok sprite =>
    let (collision, host) :=
      Sprite.plot host (Sprite.points machine.dialect.wrapSprites column line sprite)
    let machine :=
      if collision then machine.withRegisters (machine.registers.setFlag true) else machine
    ⟨machine, Host.screen host .updating, .ok .next⟩

/-- Replace bytes of memory from the index on, then go on from what `after` makes of the machine. -/
def writeAtIndex (machine : Machine) (host : η) (bytes : List UInt8) (after : Machine → Machine) :
    Effect η :=
  match machine.memory.writeRange machine.registers.i.toNat bytes with
  | .error refusal => ⟨machine, host, .error (.ofRefusal refusal)⟩
  | .ok memory => ⟨after { machine with memory }, host, .ok .next⟩

def execute [Host η] (machine : Machine) (host : η) (instruction : Instruction) : Effect η :=
  let registers := machine.registers
  let proceed (machine : Machine) : Effect η := ⟨machine, host, .ok .next⟩
  let write (registers : Registers) : Effect η := proceed (machine.withRegisters registers)
  let skipIf (condition : Bool) : Effect η :=
    ⟨machine, host, .ok (if condition then .skip else .next)⟩
  match instruction with
  | .clear => proceed { machine with status := { machine.status with clearDisplay := true } }
  | .ret =>
    match registers.pop? with
    | none => ⟨machine, host, .error .stackUnderflow⟩
    | some (address, registers) => ⟨machine.withRegisters registers, host, .ok (.jump address)⟩
  | .jump target => ⟨machine, host, .ok (.jump (UInt16.ofNat target.val))⟩
  | .call target =>
    match registers.push? (registers.pc + 2) with
    | none => ⟨machine, host, .error .stackOverflow⟩
    | some registers =>
      ⟨machine.withRegisters registers, host, .ok (.jump (UInt16.ofNat target.val))⟩
  | .skipEqByte x byte => skipIf (registers.get x == byte)
  | .skipNeByte x byte => skipIf (registers.get x != byte)
  | .skipEq x y => skipIf (registers.get x == registers.get y)
  | .skipNe x y => skipIf (registers.get x != registers.get y)
  | .setByte x byte => write (registers.set x byte)
  | .addByte x byte => write (registers.set x (registers.get x + byte))
  | .copy x y => write (registers.set x (registers.get y))
  | .bitOr x y => proceed (machine.setBitwise x (registers.get x ||| registers.get y))
  | .bitAnd x y => proceed (machine.setBitwise x (registers.get x &&& registers.get y))
  | .bitXor x y => proceed (machine.setBitwise x (registers.get x ^^^ registers.get y))
  | .add x y => write (registers.setFlagged x (.add (registers.get x) (registers.get y)))
  | .sub x y => write (registers.setFlagged x (.sub (registers.get x) (registers.get y)))
  | .subFrom x y => write (registers.setFlagged x (.sub (registers.get y) (registers.get x)))
  | .shiftRight x y =>
    write (registers.setFlagged x (.half (registers.get (machine.shiftSource x y))))
  | .shiftLeft x y =>
    write (registers.setFlagged x (.double (registers.get (machine.shiftSource x y))))
  | .setIndex target => write { registers with i := UInt16.ofNat target.val }
  | .jumpOffset target =>
    let offset := (registers.get Registers.offsetIndex).toNat
    ⟨machine, host, .ok (.jump (UInt16.ofNat (target.val + offset)))⟩
  | .random x mask =>
    let (byte, random) := machine.random.next
    proceed { machine with registers := registers.set x (byte &&& mask), random }
  | .draw x y rows => machine.drawSprite host x y rows
  | .skipDown x => skipIf (machine.keypad.isDown (registers.get x))
  | .skipUp x => skipIf (!machine.keypad.isDown (registers.get x))
  | .readDelay x => write (registers.set x machine.timers.delay)
  | .waitKey x =>
    match machine.keypad.first? with
    | some key => write (registers.set x key)
    | none => ⟨machine, host, .ok (.waitForKey x)⟩
  | .setDelay x => proceed { machine with timers.delay := registers.get x }
  | .setSound x => proceed { machine with timers.sound := registers.get x }
  | .addIndex x =>
    let sum := registers.i.toNat + (registers.get x).toNat
    write ({ registers with i := UInt16.ofNat (sum % 0x1000) }.setFlag (decide (0xFFF < sum)))
  | .smallGlyph x =>
    write { registers with
      i := UInt16.ofNat (fontStart + fontGlyphSize * ((registers.get x).toNat % 16)) }
  | .largeGlyph x =>
    write { registers with
      i := UInt16.ofNat (bigFontStart + bigFontGlyphSize * ((registers.get x).toNat % 16)) }
  | .decimal x => machine.writeAtIndex host (decimalDigits (registers.get x)) id
  | .store x => machine.writeAtIndex host (registers.block x) (·.advanceIndex x)
  | .load x =>
    match machine.memory.readRange registers.i.toNat (x.val + 1) with
    | .error refusal => ⟨machine, host, .error (.ofRefusal refusal)⟩
    | .ok bytes => proceed ((machine.withRegisters (registers.setBlock bytes)).advanceIndex x)

end Machine

end Chip8
