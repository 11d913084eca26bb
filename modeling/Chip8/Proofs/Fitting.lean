import Chip8.Machine.Checked
import Chip8.Proofs.Bounds

/-! # What fits

The pieces of a processor step, in which sums, products, differences and indices are checked. Each
lemma says what a piece needs to give the unchecked result: a range must not be an empty one at
zero, a sprite has few rows, a block stays in memory, an address has an instruction in front of it.
Put together, `execute_eq` asks for the bounds of a driven machine and, of a sprite without rows,
for an index above zero.
-/

namespace Chip8

universe u

variable {η : Type u}

open Checked

namespace Checked

variable {size a b : Nat}

private theorem add_of_lt (fits : a + b < size) : add size a b = some (a + b) := if_pos fits

private theorem add_of_le (beyond : size ≤ a + b) : add size a b = none :=
  if_neg (Nat.not_lt.mpr beyond)

private theorem mul_of_lt (fits : a * b < size) : mul size a b = some (a * b) := if_pos fits

private theorem sub_of_le (least : b ≤ a) : sub a b = some (a - b) := if_pos least

private theorem sub_of_lt (less : a < b) : sub a b = none := if_neg (Nat.not_le.mpr less)

/-- A sum that fits is the sum of the words. -/
theorem ofNat_toNat_add (a b : UInt16) : UInt16.ofNat (a.toNat + b.toNat) = a + b := by
  rw [UInt16.ofNat_add, UInt16.ofNat_toNat, UInt16.ofNat_toNat]

end Checked

namespace Memory.Checked

private theorem copy_eq (bytes : Vector UInt8 memorySize) {start : Nat} {new : List UInt8}
    (within : start + new.length ≤ memorySize) :
    copy bytes start new = some (splice bytes start new) := by
  have fits : start + new.length < lengths := Nat.lt_of_le_of_lt within (by decide)
  rw [copy, add_of_lt fits, Option.bind_some, if_pos within]

theorem initial_eq : initial = some Memory.initial := by
  have small : fontStart + smallGlyphs.length ≤ memorySize := by decide
  have large : bigFontStart + largeGlyphs.length ≤ memorySize := by decide
  rw [initial, copy_eq _ small, Option.bind_some, copy_eq _ large]
  rfl

theorem loadProgram_eq (memory : Memory) (program : List UInt8) :
    loadProgram memory program = some (memory.loadProgram program) := by
  simp only [loadProgram, Memory.loadProgram]
  split
  · next fits =>
    have within : programStart + program.length ≤ memorySize := by
      have := programStart_add_maxProgramSize
      omega
    rw [copy_eq _ within]
    rfl
  · rfl

private theorem readWord_eq (memory : Memory) (address : Address) :
    readWord memory address = some (memory.readWord address) := by
  have fits : address.toNat + 1 < lengths := by
    have := address.toNat_lt
    simp only [lengths, UInt64.size]
    omega
  simp only [readWord, Memory.readWord, add_of_lt fits, bind, Except.bind]
  cases memory.read address.toNat with
  | error refusal => rfl
  | ok high =>
    simp only [Option.map_some]
    cases memory.read (address.toNat + 1) with
    | error refusal => rfl
    | ok low => rfl

/-- A range has a last place unless it is empty and begins at zero. -/
theorem last_eq {start length : Nat} (short : start + length < lengths)
    (inhabited : 0 < start + length) : last start length = some (start + length - 1) := by
  rw [last, add_of_lt short, Option.bind_some, sub_of_le inhabited]

private theorem readRange_eq (memory : Memory) {start length : Nat}
    (short : start + length < lengths) (inhabited : 0 < start + length) :
    readRange memory start length = some (memory.readRange start length) := by
  rw [readRange, last_eq short inhabited]
  rfl

private theorem writeRange_eq (memory : Memory) {start : Nat} {bytes : List UInt8}
    (short : start + bytes.length < lengths) (inhabited : 0 < start + bytes.length) :
    writeRange memory start bytes = some (memory.writeRange start bytes) := by
  rw [writeRange, last_eq short inhabited]
  rfl

/-- There is no place before the first. -/
theorem readRange_zero (memory : Memory) : readRange memory 0 0 = none := rfl

end Memory.Checked

namespace Keypad.Checked

theorem set_eq (keypad : Keypad) (key : UInt8) (pressed : Bool) :
    set keypad key pressed = some (keypad.set key pressed) := by
  simp only [set, Keypad.set, bit]
  split <;> rfl

private theorem isDown_eq (keypad : Keypad) (key : UInt8) :
    isDown keypad key = some (keypad.isDown key) := by
  simp only [isDown, bit]
  split
  · next valid =>
    have masked := BitVec.and_twoPow keypad.bits key.toNat
    have lit : BitVec.twoPow keyCount key.toNat ≠ 0 := by
      intro zero
      have own := @BitVec.getLsbD_twoPow keyCount key.toNat key.toNat
      simp [zero, valid] at own
    change some (keypad.bits &&& BitVec.twoPow keyCount key.toNat != 0) = _
    rw [masked, Keypad.isDown]
    cases keypad.bits.getLsbD key.toNat
    · rfl
    · exact congrArg some (bne_iff_ne.mpr lit)
  · next none =>
    rw [isDown_of_le (Nat.le_of_not_lt none)]

end Keypad.Checked

namespace Registers.Checked

variable {registers : Registers}

private theorem push_eq (registers : Registers) (address : Address) :
    push registers address = some (match registers.push? address with
      | some pushed => .ok pushed
      | none => .error .stackOverflow) := by
  simp only [push, push?]
  split
  · next free =>
    have fits : registers.sp.toNat + 1 < UInt8.size := by
      simp only [stackDepth, UInt8.size] at *
      omega
    rw [add_of_lt fits]
    simp only [Option.map_some, UInt8.ofNat_add, UInt8.ofNat_toNat]
    rfl
  · rfl

private theorem pop_eq (depth : registers.sp.toNat ≤ stackDepth) :
    pop registers = some (match registers.pop? with
      | some popped => .ok popped
      | none => .error .stackUnderflow) := by
  cases popped : registers.pop? with
  | none =>
    have empty : registers.sp.toNat < 1 := by
      rw [pop?_eq_none_iff.mp popped]
      decide
    rw [pop, sub_of_lt empty]
  | some top =>
    obtain ⟨address, below⟩ := top
    obtain ⟨same, next, found⟩ := eq_of_pop? popped
    have occupied : 1 ≤ registers.sp.toNat := by omega
    have slot : registers.sp.toNat - 1 = below.sp.toNat := by omega
    have inside : below.sp.toNat < stackDepth := by omega
    rw [pop, sub_of_le occupied, slot, found, same]
    simp only [Vector.getElem?_eq_getElem inside, Option.map_some, Option.getD_some,
      UInt8.ofNat_toNat]

private theorem first_eq (registers : Registers) (x : VIndex) :
    first registers (x.val + 1) = some (registers.block x) := if_pos x.isLt

end Registers.Checked

namespace Sprite.Checked

variable {x y row : Nat}

private theorem rowPoints_eq (wrap : Bool) (narrow : x < 256) (low : y + row < UInt16.size)
    {columns : List Nat} (within : ∀ column ∈ columns, column < 8) :
    rowPoints wrap x y row columns =
      some (columns.filterMap fun column => place? wrap (x + column) (y + row)) := by
  induction columns with
  | nil => rfl
  | cons column rest ih =>
    obtain ⟨first, others⟩ := List.forall_mem_cons.mp within
    have fits : x + column < UInt16.size := by
      simp only [UInt16.size]
      omega
    rw [rowPoints, add_of_lt fits, Option.bind_some, add_of_lt low, Option.bind_some, ih others,
      Option.map_some, List.filterMap_cons]
    cases place? wrap (x + column) (y + row) <;> rfl

private theorem lt_of_mem_columns {bits : UInt8} {column : Nat} (member : column ∈ columns bits) :
    column < 8 := List.mem_range.mp (List.mem_filter.mp member).1

private theorem points_eq (wrap : Bool) (narrow : x < 256) (low : y < 256) {rows : List UInt8}
    (short : row + rows.length ≤ 16) :
    points wrap x y row rows = some (Sprite.points wrap x (y + row) rows) := by
  induction rows generalizing row with
  | nil => rfl
  | cons bits rest ih =>
    rw [List.length_cons] at short
    have counted : row + 1 < UInt16.size := by
      simp only [UInt16.size]
      omega
    have here : y + row < UInt16.size := by
      simp only [UInt16.size]
      omega
    have below : (row + 1) + rest.length ≤ 16 := by omega
    rw [points, add_of_lt counted, Option.bind_some,
      rowPoints_eq wrap narrow here fun _ => lt_of_mem_columns, Option.bind_some, ih below]
    rfl

end Sprite.Checked

namespace Machine.Checked

variable {machine : Machine}

private theorem advanceIndex_eq {x : VIndex}
    (within : machine.registers.i.toNat + (x.val + 1) ≤ memorySize) :
    advanceIndex machine (x.val + 1) = some (machine.advanceIndex x) := by
  have fits : machine.registers.i.toNat + (x.val + 1) < UInt16.size := by
    simp only [memorySize, UInt16.size] at *
    omega
  simp only [advanceIndex, Machine.advanceIndex]
  split
  · rw [add_of_lt fits, Option.map_some, UInt16.ofNat_add, UInt16.ofNat_toNat]
  · rfl

/-- A place in memory and a few more bytes are far from the end of a word. -/
theorem index_add_lt (machine : Machine) {length : Nat} (short : length ≤ 16) :
    machine.registers.i.toNat + length < lengths := by
  have := machine.registers.i.toNat_lt
  simp only [lengths, UInt64.size]
  omega

/-- A sprite has points that fit, and needs a byte, or a place behind the first one. -/
theorem drawSprite_eq [Host η] (machine : Machine) (host : η) (x y : VIndex) {rows : RowCount}
    (inhabited : 0 < machine.registers.i.toNat + rows.val) :
    drawSprite machine host x y rows = some (machine.drawSprite host x y rows) := by
  have short : rows.val ≤ 16 := Nat.le_of_lt rows.isLt
  have read := Memory.Checked.readRange_eq machine.memory (index_add_lt machine short) inhabited
  simp only [drawSprite, Machine.drawSprite, withRegisters, Registers.setFlag_i, read,
    Option.bind_some]
  cases found : machine.memory.readRange machine.registers.i.toNat rows.val with
  | error refusal => rfl
  | ok sprite =>
    obtain ⟨bytes, same, length, -⟩ :=
      machine.memory.exists_readRange (Memory.within_of_readRange found)
    rw [found] at same
    cases same
    have few : 0 + sprite.length ≤ 16 := by omega
    have covered := Sprite.Checked.points_eq machine.dialect.wrapSprites
      (machine.registers.get x).toNat_lt (machine.registers.get y).toNat_lt few
    simp only [covered, Option.map_some, Nat.add_zero]
    rfl

/-- A sprite without rows at the very start of memory has no last place. -/
theorem drawSprite_none [Host η] (host : η) (x y : VIndex) {rows : RowCount}
    (empty : rows.val = 0) (zero : machine.registers.i = 0) :
    drawSprite machine host x y rows = none := by
  have nowhere : Memory.Checked.readRange machine.memory (0 : Address).toNat 0 = none :=
    Memory.Checked.readRange_zero machine.memory
  simp only [drawSprite, withRegisters, Registers.setFlag_i, zero, empty, nowhere,
    Option.bind_none]

private theorem writeAtIndex_eq (machine : Machine) (host : η) {bytes : List UInt8}
    {after : Machine → Option Machine} {plain : Machine → Machine} (inhabited : 0 < bytes.length)
    (short : bytes.length ≤ 16)
    (agrees : machine.registers.i.toNat + bytes.length ≤ memorySize → ∀ memory,
      after { machine with memory } = some (plain { machine with memory })) :
    writeAtIndex machine host bytes after = some (machine.writeAtIndex host bytes plain) := by
  have written := Memory.Checked.writeRange_eq machine.memory (index_add_lt machine short)
    (Nat.add_pos_right _ inhabited)
  simp only [writeAtIndex, Machine.writeAtIndex, written, Option.bind_some]
  cases done : machine.memory.writeRange machine.registers.i.toNat bytes with
  | error refusal => rfl
  | ok memory => simp only [agrees (Memory.within_of_writeRange done), Option.map_some]

/-- Near an instruction, all that is computed to execute it fits, but for the last place of an empty
sprite at zero. -/
theorem execute_eq [Host η] {instruction : Instruction} (bounds : machine.registers.InBounds)
    (near : machine.registers.pc.toNat + 1 < memorySize)
    (sound : ∀ x y rows, instruction = .draw x y rows → rows.val = 0 → machine.registers.i ≠ 0)
    (host : η) :
    execute machine host instruction = some (machine.execute host instruction) := by
  cases instruction
  case ret =>
    simp only [execute, Machine.execute, Registers.Checked.pop_eq bounds.depth, Option.map_some]
    cases machine.registers.pop? <;> rfl
  case call target =>
    have fits : machine.registers.pc.toNat + 2 < UInt16.size := by
      simp only [memorySize, UInt16.size] at *
      omega
    have back : UInt16.ofNat (machine.registers.pc.toNat + 2) = machine.registers.pc + 2 :=
      ofNat_toNat_add machine.registers.pc 2
    simp only [execute, Machine.execute, add_of_lt fits, back, Option.bind_some,
      Registers.Checked.push_eq, Option.map_some]
    cases machine.registers.push? (machine.registers.pc + 2) <;> rfl
  case jumpOffset target =>
    have fits : target.val + (machine.registers.get Registers.offsetIndex).toNat < UInt16.size := by
      have := target.isLt
      have := (machine.registers.get Registers.offsetIndex).toNat_lt
      simp only [UInt16.size]
      omega
    simp only [execute, Machine.execute, add_of_lt fits, Option.map_some]
  case draw x y rows =>
    simp only [execute, Machine.execute]
    refine drawSprite_eq machine host x y (Nat.pos_of_ne_zero fun none => ?_)
    obtain ⟨zero, empty⟩ := Nat.add_eq_zero_iff.mp none
    exact sound x y rows rfl empty (UInt16.toNat_inj.mp zero)
  case skipDown x =>
    simp only [execute, Machine.execute, Keypad.Checked.isDown_eq, Option.map_some]
  case skipUp x =>
    simp only [execute, Machine.execute, Keypad.Checked.isDown_eq, Option.map_some]
  case addIndex x =>
    have fits : machine.registers.i.toNat + (machine.registers.get x).toNat < UInt32.size := by
      have := machine.registers.i.toNat_lt
      have := (machine.registers.get x).toNat_lt
      simp only [UInt32.size]
      omega
    simp only [execute, Machine.execute, add_of_lt fits, Option.map_some]
  case smallGlyph x =>
    have product : fontGlyphSize * ((machine.registers.get x).toNat % 16) < UInt16.size := by
      simp only [fontGlyphSize, UInt16.size]
      omega
    have sum :
        fontStart + fontGlyphSize * ((machine.registers.get x).toNat % 16) < UInt16.size := by
      simp only [fontStart, fontGlyphSize, UInt16.size]
      omega
    simp only [execute, Machine.execute, mul_of_lt product, Option.bind_some, add_of_lt sum,
      Option.map_some]
  case largeGlyph x =>
    have product : bigFontGlyphSize * ((machine.registers.get x).toNat % 16) < UInt16.size := by
      simp only [bigFontGlyphSize, UInt16.size]
      omega
    have sum :
        bigFontStart + bigFontGlyphSize * ((machine.registers.get x).toNat % 16) < UInt16.size := by
      simp only [bigFontStart, bigFontGlyphSize, UInt16.size]
      omega
    simp only [execute, Machine.execute, mul_of_lt product, Option.bind_some, add_of_lt sum,
      Option.map_some]
  case decimal x =>
    simp only [execute, Machine.execute]
    refine writeAtIndex_eq machine host ?_ ?_ fun _ _ => rfl
    · exact Nat.succ_pos _
    · exact (by decide : 3 ≤ 16)
  case store x =>
    have fits : x.val + 1 < lengths := Nat.lt_of_le_of_lt x.isLt (by decide)
    have length := machine.registers.length_block x
    simp only [execute, Machine.execute, add_of_lt fits, Option.bind_some,
      Registers.Checked.first_eq]
    refine writeAtIndex_eq machine host ?_ ?_ ?_
    · exact length ▸ Nat.succ_pos _
    · exact length ▸ x.isLt
    · intro within memory
      rw [length] at within
      exact advanceIndex_eq within
  case load x =>
    have fits : x.val + 1 < lengths := Nat.lt_of_le_of_lt x.isLt (by decide)
    have read := Memory.Checked.readRange_eq machine.memory (index_add_lt machine x.isLt)
      (Nat.add_pos_right _ (Nat.succ_pos x.val))
    simp only [execute, Machine.execute, add_of_lt fits, Option.bind_some,
      Registers.Checked.first_eq, read]
    cases found : machine.memory.readRange machine.registers.i.toNat (x.val + 1) with
    | error refusal => rfl
    | ok bytes =>
      have within : (machine.withRegisters
          (machine.registers.setBlock bytes)).registers.i.toNat + (x.val + 1) ≤ memorySize := by
        rw [withRegisters, Registers.setBlock_i]
        exact Memory.within_of_readRange found
      simp only [advanceIndex_eq within, Option.map_some]
  all_goals rfl

theorem instructionAt_eq (machine : Machine) (address : Address) :
    instructionAt machine address = some (machine.instructionAt address) := by
  rw [instructionAt, Memory.Checked.readWord_eq]
  rfl

theorem follow_eq {address : Address} {flow : Flow} (near : address.toNat + 1 < memorySize)
    (room : (∃ x, flow = .waitForKey x) ∨ machine.cycles + 1 < counts) :
    follow machine address flow = some (machine.follow address flow) := by
  have fits {distance : Nat} (short : distance ≤ 4) : address.toNat + distance < UInt16.size := by
    simp only [memorySize, UInt16.size] at *
    omega
  rcases room with ⟨x, rfl⟩ | room
  · rfl
  cases flow with
  | next =>
    have behind : UInt16.ofNat (address.toNat + 2) = address + 2 := ofNat_toNat_add address 2
    simp only [follow, Machine.follow, add_of_lt (fits (by decide : 2 ≤ 4)), Option.bind_some,
      behind, add_of_lt room, Option.map_some]
  | skip =>
    have behind : UInt16.ofNat (address.toNat + 4) = address + 4 := ofNat_toNat_add address 4
    simp only [follow, Machine.follow, add_of_lt (fits (Nat.le_refl 4)), Option.bind_some,
      behind, add_of_lt room, Option.map_some]
  | jump target => simp only [follow, Machine.follow, add_of_lt room, Option.map_some]
  | waitForKey x => rfl

/-- There is no room for another completed instruction. -/
theorem follow_none {address : Address} {flow : Flow} (moves : ∀ x, flow ≠ .waitForKey x)
    (full : counts ≤ machine.cycles + 1) : follow machine address flow = none := by
  cases flow with
  | next => simp only [follow, add_of_le full, Option.map_none, Option.bind_fun_none]
  | skip => simp only [follow, add_of_le full, Option.map_none, Option.bind_fun_none]
  | jump target => simp only [follow, add_of_le full, Option.map_none]
  | waitForKey x => exact absurd rfl (moves x)

theorem resume_eq {x : VIndex} (key : UInt8) (near : machine.registers.pc.toNat ≤ 0x0FFE)
    (room : machine.cycles + 1 < counts) :
    resume machine x key = some (machine.resume x key) := by
  have fits : machine.registers.pc.toNat + 2 < UInt16.size := by
    simp only [UInt16.size]
    omega
  have behind : UInt16.ofNat (machine.registers.pc.toNat + 2) = machine.registers.pc + 2 :=
    ofNat_toNat_add machine.registers.pc 2
  simp only [resume, Machine.resume, add_of_lt fits, Option.bind_some, behind, add_of_lt room,
    Option.map_some]

theorem resume_none {x : VIndex} (key : UInt8) (full : counts ≤ machine.cycles + 1) :
    resume machine x key = none := by
  simp only [resume, add_of_le full, Option.map_none, Option.bind_fun_none]

end Machine.Checked

end Chip8
