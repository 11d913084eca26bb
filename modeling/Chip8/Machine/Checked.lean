import Chip8.Machine.Cycle

/-! # Arithmetic that has to fit

The activities of the machine once more, over words that break a computation off when a sum, a
product or a difference does not fit into them, or when an index is out of its array. `none` stands
for a computation that broke off. Everything else is as in the unchecked definitions of the same
names, whose faults are ordinary results here.
-/

namespace Chip8

universe u

variable {η : Type u}

namespace Checked

/-- How many lengths there are, and places among bytes. -/
abbrev lengths : Nat := UInt64.size

/-- How many numbers of completed instructions there are. -/
abbrev counts : Nat := UInt64.size

/-- A sum, if it is one of the first `size` numbers, those that a word holds. -/
def add (size a b : Nat) : Option Nat := if a + b < size then some (a + b) else none

/-- A product, if it is one of the first `size` numbers. -/
def mul (size a b : Nat) : Option Nat := if a * b < size then some (a * b) else none

/-- A difference, if there is one. -/
def sub (a b : Nat) : Option Nat := if b ≤ a then some (a - b) else none

end Checked

open Checked

namespace Memory.Checked

/-- Copy bytes into a range, which has to lie in memory. -/
def copy (bytes : Vector UInt8 memorySize) (start : Nat) (new : List UInt8) :
    Option (Vector UInt8 memorySize) :=
  (add lengths start new.length).bind fun stop =>
    if stop ≤ memorySize then some (splice bytes start new) else none

def initial : Option Memory :=
  (copy (Vector.replicate memorySize 0) fontStart smallGlyphs).bind fun small =>
    (copy small bigFontStart largeGlyphs).map Memory.mk

def loadProgram (memory : Memory) (program : List UInt8) : Option (Except Refusal Memory) :=
  if program.length ≤ maxProgramSize then
    (copy memory.bytes programStart program).map fun bytes => .ok ⟨bytes⟩
  else
    some (.error (.programTooLarge program.length maxProgramSize))

def readWord (memory : Memory) (address : Address) : Option (Except Refusal Word) :=
  match memory.read address.toNat with
  | .error refusal => some (.error refusal)
  | .ok high => (add lengths address.toNat 1).map fun next =>
    match memory.read next with
    | .error refusal => .error refusal
    | .ok low => .ok ((high.toUInt16 <<< 8) ||| low.toUInt16)

/-- The last place of a range, under which it is refused. It is found before anything is known of
the range, so a range without bytes must not begin at zero. -/
def last (start length : Nat) : Option Nat :=
  (add lengths start length).bind fun stop => sub stop 1

def readRange (memory : Memory) (start length : Nat) : Option (Except Refusal (List UInt8)) :=
  (last start length).map fun _ => memory.readRange start length

def writeRange (memory : Memory) (start : Nat) (bytes : List UInt8) :
    Option (Except Refusal Memory) :=
  (last start bytes.length).map fun _ => memory.writeRange start bytes

end Memory.Checked

namespace Keypad.Checked

/-- The bit of a key. No word is shifted by as many places as it has. -/
def bit (key : UInt8) : Option (BitVec keyCount) :=
  if key.toNat < keyCount then some (BitVec.ofNat keyCount 1 <<< key.toNat) else none

def set (keypad : Keypad) (key : UInt8) (pressed : Bool) : Option (Except InvalidKey Keypad) :=
  if key.toNat < keyCount then
    (bit key).map fun bit =>
      .ok ⟨if pressed then keypad.bits ||| bit else keypad.bits &&& ~~~bit⟩
  else
    some (.error ⟨key⟩)

def isDown (keypad : Keypad) (key : UInt8) : Option Bool :=
  if key.toNat < keyCount then (bit key).map fun bit => keypad.bits &&& bit != 0 else some false

end Keypad.Checked

namespace Registers.Checked

def push (registers : Registers) (address : Address) : Option (Except Fault Registers) :=
  if free : registers.sp.toNat < stackDepth then
    (add UInt8.size registers.sp.toNat 1).map fun sp => .ok { registers with
      stack := registers.stack.set registers.sp.toNat address
      sp := UInt8.ofNat sp }
  else
    some (.error .stackOverflow)

/-- Leave a subroutine, whose return address has to be in the stack. -/
def pop (registers : Registers) : Option (Except Fault (Address × Registers)) :=
  match sub registers.sp.toNat 1 with
  | none => some (.error .stackUnderflow)
  | some sp => registers.stack[sp]?.map fun address =>
    .ok (address, { registers with sp := UInt8.ofNat sp })

/-- So many general registers, which have to be there. -/
def first (registers : Registers) (count : Nat) : Option (List UInt8) :=
  if count ≤ 16 then some (registers.v.toList.take count) else none

end Registers.Checked

namespace Sprite.Checked

/-- The points of one row of a sprite, from the columns in which it has pixels. -/
def rowPoints (wrap : Bool) (x y row : Nat) : List Nat → Option (List (Nat × Nat))
  | [] => some []
  | column :: rest =>
    (add UInt16.size x column).bind fun across =>
      (add UInt16.size y row).bind fun down =>
        (rowPoints wrap x y row rest).map fun others =>
          (place? wrap across down).toList ++ others

/-- The points of a sprite whose rows are numbered from `row` on. -/
def points (wrap : Bool) (x y row : Nat) : List UInt8 → Option (List (Nat × Nat))
  | [] => some []
  | bits :: rest =>
    (add UInt16.size row 1).bind fun next =>
      (rowPoints wrap x y row (columns bits)).bind fun here =>
        (points wrap x y next rest).map fun below => here ++ below

end Sprite.Checked

namespace Machine.Checked

def advanceIndex (machine : Machine) (count : Nat) : Option Machine :=
  if machine.dialect.incrementIndex then
    (add UInt16.size machine.registers.i.toNat count).map fun i =>
      machine.withRegisters { machine.registers with i := UInt16.ofNat i }
  else
    some machine

def drawSprite [Host η] (machine : Machine) (host : η) (x y : VIndex) (rows : RowCount) :
    Option (Effect η) :=
  let column := (machine.registers.get x).toNat
  let line := (machine.registers.get y).toNat
  let machine := machine.withRegisters (machine.registers.setFlag false)
  (Memory.Checked.readRange machine.memory machine.registers.i.toNat rows.val).bind fun
    | .error refusal => some ⟨machine, host, .error (.ofRefusal refusal)⟩
    | .ok sprite =>
      (Sprite.Checked.points machine.dialect.wrapSprites column line 0 sprite).map fun covered =>
        let (collision, host) := Sprite.plot host covered
        let machine :=
          if collision then machine.withRegisters (machine.registers.setFlag true) else machine
        ⟨machine, Host.screen host .updating, .ok .next⟩

def writeAtIndex (machine : Machine) (host : η) (bytes : List UInt8)
    (after : Machine → Option Machine) : Option (Effect η) :=
  (Memory.Checked.writeRange machine.memory machine.registers.i.toNat bytes).bind fun
    | .error refusal => some ⟨machine, host, .error (.ofRefusal refusal)⟩
    | .ok memory => (after { machine with memory }).map fun machine => ⟨machine, host, .ok .next⟩

/-- Execute an instruction. Those that are not listed compute nothing that could fail to fit. -/
def execute [Host η] (machine : Machine) (host : η) (instruction : Instruction) :
    Option (Effect η) :=
  let registers := machine.registers
  let proceed (machine : Machine) : Effect η := ⟨machine, host, .ok .next⟩
  let write (registers : Registers) : Effect η := proceed (machine.withRegisters registers)
  let skipIf (condition : Bool) : Effect η :=
    ⟨machine, host, .ok (if condition then .skip else .next)⟩
  match instruction with
  | .ret => (Registers.Checked.pop registers).map fun
    | .error fault => ⟨machine, host, .error fault⟩
    | .ok (address, registers) => ⟨machine.withRegisters registers, host, .ok (.jump address)⟩
  | .call target =>
    (add UInt16.size registers.pc.toNat 2).bind fun back =>
      (Registers.Checked.push registers (UInt16.ofNat back)).map fun
        | .error fault => ⟨machine, host, .error fault⟩
        | .ok registers =>
          ⟨machine.withRegisters registers, host, .ok (.jump (UInt16.ofNat target.val))⟩
  | .jumpOffset target =>
    (add UInt16.size target.val (registers.get Registers.offsetIndex).toNat).map fun place =>
      ⟨machine, host, .ok (.jump (UInt16.ofNat place))⟩
  | .draw x y rows => drawSprite machine host x y rows
  | .skipDown x => (Keypad.Checked.isDown machine.keypad (registers.get x)).map skipIf
  | .skipUp x => (Keypad.Checked.isDown machine.keypad (registers.get x)).map (skipIf !·)
  | .addIndex x => (add UInt32.size registers.i.toNat (registers.get x).toNat).map fun sum =>
    write ({ registers with i := UInt16.ofNat (sum % 0x1000) }.setFlag (decide (0xFFF < sum)))
  | .smallGlyph x =>
    (mul UInt16.size fontGlyphSize ((registers.get x).toNat % 16)).bind fun offset =>
      (add UInt16.size fontStart offset).map fun place =>
        write { registers with i := UInt16.ofNat place }
  | .largeGlyph x =>
    (mul UInt16.size bigFontGlyphSize ((registers.get x).toNat % 16)).bind fun offset =>
      (add UInt16.size bigFontStart offset).map fun place =>
        write { registers with i := UInt16.ofNat place }
  | .decimal x => writeAtIndex machine host (decimalDigits (registers.get x)) some
  | .store x =>
    (add lengths x.val 1).bind fun count =>
      (Registers.Checked.first registers count).bind fun bytes =>
        writeAtIndex machine host bytes (advanceIndex · count)
  | .load x =>
    (add lengths x.val 1).bind fun count =>
      (Registers.Checked.first registers count).bind fun _ =>
        (Memory.Checked.readRange machine.memory registers.i.toNat count).bind fun
          | .error refusal => some ⟨machine, host, .error (.ofRefusal refusal)⟩
          | .ok bytes =>
            (advanceIndex (machine.withRegisters (registers.setBlock bytes)) count).map proceed
  | instruction => some (machine.execute host instruction)

def instructionAt (machine : Machine) (address : Address) : Option (Except Fault Instruction) :=
  (Memory.Checked.readWord machine.memory address).map fun
    | .error refusal => .error (.ofRefusal refusal)
    | .ok word =>
      match Instruction.decode? word with
      | some instruction => .ok instruction
      | none => .error (.unknownOpcode word address)

def follow (machine : Machine) (address : Address) (flow : Flow) : Option Machine :=
  let goto (target : Address) : Option Machine :=
    (add counts machine.cycles 1).map fun cycles =>
      { machine with registers.pc := target, cycles }
  match flow with
  | .next => (add UInt16.size address.toNat 2).bind fun target => goto (UInt16.ofNat target)
  | .skip => (add UInt16.size address.toNat 4).bind fun target => goto (UInt16.ofNat target)
  | .jump target => goto target
  | .waitForKey x => some { machine with mode := .waitingForKey x }

def resume (machine : Machine) (x : VIndex) (key : UInt8) : Option Machine :=
  (add UInt16.size machine.registers.pc.toNat 2).bind fun pc =>
    (add counts machine.cycles 1).map fun cycles =>
      { machine with
        registers := { machine.registers.set x key with pc := UInt16.ofNat pc }
        mode := .running
        cycles }

def attempt [Host η] (machine : Machine) (host : η) : Option (Machine × η × Option Fault) :=
  match machine.mode with
  | .waitingForKey x =>
    match machine.keypad.first? with
    | some key => (resume machine x key).map fun machine => (machine, host, none)
    | none => some (machine, host, none)
  | .running =>
    let address := machine.registers.pc
    (instructionAt machine address).bind fun
      | .error fault => some (machine, host, some fault)
      | .ok instruction =>
        (execute machine host instruction).bind fun effect =>
          match effect.outcome with
          | .error fault => some (effect.machine, effect.host, some fault)
          | .ok flow =>
            (follow effect.machine address flow).map fun machine => (machine, effect.host, none)

def step [Host η] (machine : Machine) (host : η) : Option (Machine × η) :=
  (attempt machine host).map fun
    | (machine, host, none) => (machine, host)
    | (machine, host, some fault) => machine.halt host fault

def press [Host η] (machine : Machine) (host : η) (event : KeyEvent) : Option (Machine × η) :=
  (Keypad.Checked.set machine.keypad event.key event.pressed).map fun
    | .ok keypad => ({ machine with keypad }, host)
    | .error problem => machine.halt host (.ofInvalidKey problem)

def pollInput [Host η] (machine : Machine) (host : η) : Option (Machine × η) :=
  let (input, host) := Host.poll host (.idle machine.isPaused)
  let machine := machine.heed input
  match input.key with
  | some event => press machine host event
  | none => some (machine, host)

def reset (machine : Machine) (dialect : Dialect) : Option Machine :=
  Memory.Checked.initial.map fun memory => { machine.reset dialect with memory }

def load [Host η] (machine : Machine) (host : η) (program : List UInt8) (dialect : Dialect) :
    Option (Machine × η) :=
  (reset machine dialect).bind fun machine =>
    (Memory.Checked.loadProgram machine.memory program).map fun
      | .ok memory => ({ machine with memory, status.running := true }, host)
      | .error refusal => machine.halt host (.ofRefusal refusal)

end Machine.Checked

end Chip8
