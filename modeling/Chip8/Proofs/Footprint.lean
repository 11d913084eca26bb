import Chip8.Proofs.Transition

/-! # The footprint of an instruction

Each instruction has a place where it may leave traces: some bytes at the index, some registers, the
call stack, a timer, the source of random bytes, the host. The definitions below give these places
instruction by instruction; `Framed` says that the rest of the machine is as it was, where the
program goes on and what is counted. `step_framed` is the result for every processor step without a
fault, in either mode of the processor.
-/

namespace Chip8

universe u

variable {η : Type u}

namespace Instruction

/-- The bytes that an instruction may write when the index is at `start`. -/
def Writes (start address : Nat) : Instruction → Prop
  | .decimal _ => start ≤ address ∧ address < start + 3
  | .store x => start ≤ address ∧ address < start + (x.val + 1)
  | _ => False

/-- The instructions that may move the index in a dialect. -/
def MovesIndex (dialect : Dialect) : Instruction → Prop
  | .setIndex _ | .addIndex _ | .smallGlyph _ | .largeGlyph _ => True
  | .store _ | .load _ => dialect.incrementIndex = true
  | _ => False

/-- The instructions that may change the call stack. -/
def Links : Instruction → Prop
  | .call _ | .ret => True
  | _ => False

/-- The general registers that an instruction may change in a dialect. -/
def Targets (dialect : Dialect) (register : VIndex) : Instruction → Prop
  | .setByte x _ | .addByte x _ | .copy x _ | .random x _ | .readDelay x | .waitKey x =>
    register = x
  | .bitOr x _ | .bitAnd x _ | .bitXor x _ =>
    register = x ∨ dialect.vfReset = true ∧ register = Registers.flagIndex
  | .add x _ | .sub x _ | .subFrom x _ | .shiftRight x _ | .shiftLeft x _ =>
    register = x ∨ register = Registers.flagIndex
  | .draw .. | .addIndex _ => register = Registers.flagIndex
  | .load x => register ≤ x
  | _ => False

def requestsClear : Instruction → Bool
  | .clear => true
  | _ => false

def drawsByte : Instruction → Bool
  | .random .. => true
  | _ => false

end Instruction

namespace Machine

/-- Whether a skip that an instruction may make is taken. -/
def skips (machine : Machine) : Instruction → Bool
  | .skipEqByte x byte => machine.registers.get x == byte
  | .skipNeByte x byte => machine.registers.get x != byte
  | .skipEq x y => machine.registers.get x == machine.registers.get y
  | .skipNe x y => machine.registers.get x != machine.registers.get y
  | .skipDown x => machine.keypad.isDown (machine.registers.get x)
  | .skipUp x => !machine.keypad.isDown (machine.registers.get x)
  | _ => false

/-- Where an instruction jumps to, if it jumps. A return takes the slot below the stack pointer. -/
def target? (machine : Machine) : Instruction → Option Address
  | .jump target | .call target => some (UInt16.ofNat target.val)
  | .jumpOffset target =>
    some (UInt16.ofNat (target.val + (machine.registers.get Registers.offsetIndex).toNat))
  | .ret => some (machine.registers.stack[machine.registers.sp.toNat - 1]?.getD 0)
  | _ => none

/-- Where the program goes on behind an instruction that is completed. -/
def successor (machine : Machine) (instruction : Instruction) : Address :=
  match machine.target? instruction with
  | some target => target
  | none => if machine.skips instruction then machine.registers.pc + 4 else machine.registers.pc + 2

def stalls (machine : Machine) : Instruction → Bool
  | .waitKey _ => machine.keypad.first?.isNone
  | _ => false

/-- The instruction that a processor step is about: the one at the program counter, or the wait that
is going on. -/
def current? (machine : Machine) : Option Instruction :=
  match machine.mode with
  | .waitingForKey x => some (.waitKey x)
  | .running => (machine.instructionAt machine.registers.pc).toOption

/-- Nothing outside the footprint of an instruction has changed, as far as instructions differ. -/
structure Spares (machine : Machine) (instruction : Instruction) (after : Machine) : Prop where
  memory : ∀ address, ¬instruction.Writes machine.registers.i.toNat address →
    after.memory.get? address = machine.memory.get? address
  index : ¬instruction.MovesIndex machine.dialect → after.registers.i = machine.registers.i
  sp : ¬instruction.Links → after.registers.sp = machine.registers.sp
  stack : ¬instruction.Links → after.registers.stack = machine.registers.stack
  general : ∀ register, ¬instruction.Targets machine.dialect register →
    after.registers.get register = machine.registers.get register
  delay : (∀ x, instruction ≠ .setDelay x) → after.timers.delay = machine.timers.delay
  sound : (∀ x, instruction ≠ .setSound x) → after.timers.sound = machine.timers.sound
  status : after.status =
    if instruction.requestsClear then { machine.status with clearDisplay := true }
    else machine.status
  random : after.random =
    if instruction.drawsByte then machine.random.next.2 else machine.random

/-- A step without a fault has spared everything outside the footprint of its instruction, and has
moved the program on unless the instruction has to wait. -/
structure Framed (machine : Machine) (instruction : Instruction) (after : Machine) : Prop
    extends machine.Spares instruction after where
  keypad : after.keypad = machine.keypad
  dialect : after.dialect = machine.dialect
  fault : after.fault = machine.fault
  counter : after.registers.pc =
    if machine.stalls instruction then machine.registers.pc else machine.successor instruction
  cycles : after.cycles =
    if machine.stalls instruction then machine.cycles else machine.cycles + 1

end Machine

namespace Registers

variable (registers : Registers) {register x : VIndex}

theorem get_set_of_ne (other : register ≠ x) (value : UInt8) :
    (registers.set x value).get register = registers.get register := by
  rw [get_set, if_neg other.symm]

theorem get_setFlag_of_ne (other : register ≠ flagIndex) (flag : Bool) :
    (registers.setFlag flag).get register = registers.get register :=
  registers.get_set_of_ne other _

private theorem get_setFlagged_of_ne (other : ¬(register = x ∨ register = flagIndex))
    (result : Flagged) : (registers.setFlagged x result).get register = registers.get register := by
  obtain ⟨notX, notFlag⟩ := not_or.mp other
  rw [setFlagged, get_setFlag_of_ne _ notFlag, get_set_of_ne _ notX]

private theorem get_withIndex (i : Address) (x : VIndex) :
    ({ registers with i } : Registers).get x = registers.get x := rfl

/-- Registers beyond a block are not touched by it. -/
theorem get_setBlock_of_lt {bytes : List UInt8} (length : bytes.length = x.val + 1)
    (beyond : ¬register ≤ x) :
    (registers.setBlock bytes).get register = registers.get register := by
  have outside : bytes.length ≤ register.val := by
    rw [length]
    exact Nat.lt_of_not_le beyond
  rw [get_setBlock, List.getElem?_eq_none outside, Option.getD_none]

end Registers

namespace Machine

variable {machine : Machine} {instruction : Instruction} {registers : Registers}

/-- An instruction that changes nothing but registers and memory spares the rest. -/
theorem spares_of_parts {memory : Memory} (quiet : instruction.requestsClear = false)
    (fixed : instruction.drawsByte = false)
    (bytes : ∀ address, ¬instruction.Writes machine.registers.i.toNat address →
      memory.get? address = machine.memory.get? address)
    (index : ¬instruction.MovesIndex machine.dialect → registers.i = machine.registers.i)
    (sp : ¬instruction.Links → registers.sp = machine.registers.sp)
    (stack : ¬instruction.Links → registers.stack = machine.registers.stack)
    (general : ∀ register, ¬instruction.Targets machine.dialect register →
      registers.get register = machine.registers.get register) :
    machine.Spares instruction { machine with registers, memory } where
  memory := bytes
  index := index
  sp := sp
  stack := stack
  general := general
  delay _ := rfl
  sound _ := rfl
  status := by rw [quiet]; rfl
  random := by rw [fixed]; rfl

/-- An instruction that changes nothing but general registers spares the rest. -/
theorem spares_of_general (quiet : instruction.requestsClear = false)
    (fixed : instruction.drawsByte = false) (index : registers.i = machine.registers.i)
    (sp : registers.sp = machine.registers.sp)
    (stack : registers.stack = machine.registers.stack)
    (general : ∀ register, ¬instruction.Targets machine.dialect register →
      registers.get register = machine.registers.get register) :
    machine.Spares instruction (machine.withRegisters registers) :=
  spares_of_parts quiet fixed (fun _ _ => rfl) (fun _ => index) (fun _ => sp) (fun _ => stack)
    general

private theorem Spares.refl (machine : Machine) (quiet : instruction.requestsClear = false)
    (fixed : instruction.drawsByte = false) : machine.Spares instruction machine :=
  spares_of_general quiet fixed rfl rfl rfl fun _ _ => rfl

/-- A result and its flag are all that an arithmetic instruction writes. -/
theorem setFlagged_spares {x : VIndex} (result : Flagged)
    (quiet : instruction.requestsClear = false) (fixed : instruction.drawsByte = false)
    (targets : ∀ register, ¬instruction.Targets machine.dialect register →
      ¬(register = x ∨ register = Registers.flagIndex)) :
    machine.Spares instruction
      (machine.withRegisters (machine.registers.setFlagged x result)) :=
  spares_of_general quiet fixed rfl rfl rfl fun register outside =>
    machine.registers.get_setFlagged_of_ne (targets register outside) result

/-- A bitwise instruction writes its register and, in some dialects, the flag register. -/
theorem setBitwise_spares {x : VIndex} (value : UInt8)
    (quiet : instruction.requestsClear = false) (fixed : instruction.drawsByte = false)
    (targets : ∀ register, ¬instruction.Targets machine.dialect register →
      ¬(register = x ∨ machine.dialect.vfReset = true ∧ register = Registers.flagIndex)) :
    machine.Spares instruction (machine.setBitwise x value) := by
  refine spares_of_general quiet fixed ?_ ?_ ?_ ?_
  · split <;> rfl
  · split <;> rfl
  · split <;> rfl
  · intro register outside
    obtain ⟨notX, kept⟩ := not_or.mp (targets register outside)
    split
    · next reset =>
      have notFlag : register ≠ Registers.flagIndex := fun same => kept ⟨reset, same⟩
      rw [Registers.get_setFlag_of_ne _ notFlag, Registers.get_set_of_ne _ notX]
    · exact Registers.get_set_of_ne _ notX _

private theorem setFlag_spares (flag : Bool) (quiet : instruction.requestsClear = false)
    (fixed : instruction.drawsByte = false)
    (targets : ∀ register, ¬instruction.Targets machine.dialect register →
      register ≠ Registers.flagIndex) :
    machine.Spares instruction (machine.withRegisters (machine.registers.setFlag flag)) :=
  spares_of_general quiet fixed rfl rfl rfl fun register outside =>
    machine.registers.get_setFlag_of_ne (targets register outside) flag

/-- Whether or not it is refused, an instruction leaves traces in its footprint only. -/
theorem execute_spares [Host η] (machine : Machine) (host : η) (instruction : Instruction) :
    machine.Spares instruction (machine.execute host instruction).machine := by
  cases instruction
  case clear => constructor <;> intros <;> rfl
  case random x mask =>
    constructor
    case general => exact fun _ outside => Registers.get_set_of_ne _ outside _
    all_goals intros; rfl
  case setDelay x =>
    constructor
    case delay => exact fun other => absurd rfl (other x)
    all_goals intros; rfl
  case setSound x =>
    constructor
    case sound => exact fun other => absurd rfl (other x)
    all_goals intros; rfl
  case ret =>
    simp only [execute]
    split
    · exact .refl machine rfl rfl
    · next popped =>
      obtain ⟨same, -, -⟩ := Registers.eq_of_pop? popped
      refine spares_of_parts rfl rfl (fun _ _ => rfl) (fun _ => by rw [same]) ?_ ?_
        (fun _ _ => by rw [same]; rfl)
      · exact fun unlinked => absurd trivial unlinked
      · exact fun unlinked => absurd trivial unlinked
  case call target =>
    simp only [execute]
    split
    · exact .refl machine rfl rfl
    · next pushed =>
      obtain ⟨same, -, -⟩ := Registers.eq_of_push? pushed
      refine spares_of_parts rfl rfl (fun _ _ => rfl) (fun _ => by rw [same]) ?_ ?_
        (fun _ _ => by rw [same]; rfl)
      · exact fun unlinked => absurd trivial unlinked
      · exact fun unlinked => absurd trivial unlinked
  case draw x y rows =>
    cases read : machine.memory.readRange machine.registers.i.toNat rows.val with
    | error refusal =>
      simp only [execute, drawSprite_of_error read]
      exact setFlag_spares false rfl rfl fun _ outside => outside
    | ok sprite =>
      simp only [execute, drawSprite_of_read read rfl]
      exact setFlag_spares _ rfl rfl fun _ outside => outside
  case decimal x =>
    simp only [execute, writeAtIndex]
    split
    · exact .refl machine rfl rfl
    · next memory written =>
      refine spares_of_parts rfl rfl ?_ (fun _ => rfl) (fun _ => rfl) (fun _ => rfl)
        fun _ _ => rfl
      intro address outside
      rw [Memory.get?_of_writeRange written]
      exact if_neg outside
  case store x =>
    simp only [execute, writeAtIndex, advanceIndex_eq]
    split
    · exact .refl machine rfl rfl
    · next memory written =>
      refine spares_of_parts rfl rfl ?_ ?_ (fun _ => rfl) (fun _ => rfl) fun _ _ => rfl
      · intro address outside
        rw [Memory.get?_of_writeRange written, Registers.length_block]
        exact if_neg outside
      · exact fun stays => if_neg stays
  case load x =>
    simp only [execute, advanceIndex_eq, withRegisters, Registers.setBlock_i]
    split
    · exact .refl machine rfl rfl
    · next bytes read =>
      obtain ⟨found, same, length, -⟩ :=
        machine.memory.exists_readRange (Memory.within_of_readRange read)
      rw [read] at same
      cases same
      refine spares_of_parts rfl rfl (fun _ _ => rfl) ?_ ?_ ?_ ?_
      · exact fun stays => if_neg stays
      · simp only [Registers.setBlock_sp, implies_true]
      · simp only [Registers.setBlock_stack, implies_true]
      · intro register beyond
        rw [Registers.get_withIndex]
        exact machine.registers.get_setBlock_of_lt length beyond
  case waitKey x =>
    simp only [execute]
    split
    · exact spares_of_general rfl rfl rfl rfl rfl fun _ other => Registers.get_set_of_ne _ other _
    · exact .refl machine rfl rfl
  case addIndex x =>
    refine spares_of_parts rfl rfl (fun _ _ => rfl) ?_ (fun _ => rfl) (fun _ => rfl) ?_
    · exact fun stays => absurd trivial stays
    · exact fun register outside => Registers.get_setFlag_of_ne _ outside _
  case setIndex target =>
    refine spares_of_parts rfl rfl (fun _ _ => rfl) ?_ (fun _ => rfl) (fun _ => rfl)
      fun _ _ => rfl
    exact fun stays => absurd trivial stays
  case smallGlyph x =>
    refine spares_of_parts rfl rfl (fun _ _ => rfl) ?_ (fun _ => rfl) (fun _ => rfl)
      fun _ _ => rfl
    exact fun stays => absurd trivial stays
  case largeGlyph x =>
    refine spares_of_parts rfl rfl (fun _ _ => rfl) ?_ (fun _ => rfl) (fun _ => rfl)
      fun _ _ => rfl
    exact fun stays => absurd trivial stays
  case bitOr x y => exact setBitwise_spares _ rfl rfl fun _ outside => outside
  case bitAnd x y => exact setBitwise_spares _ rfl rfl fun _ outside => outside
  case bitXor x y => exact setBitwise_spares _ rfl rfl fun _ outside => outside
  case add x y => exact setFlagged_spares _ rfl rfl fun _ outside => outside
  case sub x y => exact setFlagged_spares _ rfl rfl fun _ outside => outside
  case subFrom x y => exact setFlagged_spares _ rfl rfl fun _ outside => outside
  case shiftRight x y => exact setFlagged_spares _ rfl rfl fun _ outside => outside
  case shiftLeft x y => exact setFlagged_spares _ rfl rfl fun _ outside => outside
  case setByte x byte =>
    exact spares_of_general rfl rfl rfl rfl rfl fun _ other => Registers.get_set_of_ne _ other _
  case addByte x byte =>
    exact spares_of_general rfl rfl rfl rfl rfl fun _ other => Registers.get_set_of_ne _ other _
  case copy x y =>
    exact spares_of_general rfl rfl rfl rfl rfl fun _ other => Registers.get_set_of_ne _ other _
  case readDelay x =>
    exact spares_of_general rfl rfl rfl rfl rfl fun _ other => Registers.get_set_of_ne _ other _
  all_goals exact .refl machine rfl rfl

private theorem follow_skipIf (machine : Machine) (address : Address) (condition : Bool) :
    machine.follow address (if condition then .skip else .next) =
      { machine with
        registers.pc := if condition then address + 4 else address + 2
        cycles := machine.cycles + 1 } := by
  cases condition <;> rfl

/-- A completed instruction leads to its successor, or waits for a key that is not down. -/
theorem follow_of_done [Host η] {host : η} {flow : Flow}
    (done : (machine.execute host instruction).outcome = .ok flow) (after : Machine) :
    (∃ x, instruction = .waitKey x ∧ machine.keypad.first? = none ∧ flow = .waitForKey x) ∨
      machine.stalls instruction = false ∧
        after.follow machine.registers.pc flow =
          { after with
            registers.pc := machine.successor instruction, cycles := after.cycles + 1 } := by
  cases instruction
  case ret =>
    simp only [execute] at done
    split at done
    · contradiction
    · next address popped found =>
      cases done
      obtain ⟨-, below, place⟩ := Registers.eq_of_pop? found
      have slot : machine.registers.sp.toNat - 1 = popped.sp.toNat :=
        Nat.sub_eq_of_eq_add below.symm
      have target : machine.target? .ret = some address := by
        rw [place, ← slot]
        rfl
      refine .inr ⟨rfl, ?_⟩
      rw [successor, target]
      rfl
  case call target =>
    simp only [execute] at done
    split at done
    · contradiction
    · cases done
      exact .inr ⟨rfl, rfl⟩
  case waitKey x =>
    simp only [execute] at done
    split at done
    · next down =>
      cases done
      refine .inr ⟨?_, rfl⟩
      simp only [stalls, down, Option.isNone_some]
    · next up =>
      cases done
      exact .inl ⟨x, rfl, up, rfl⟩
  case draw x y rows =>
    cases read : machine.memory.readRange machine.registers.i.toNat rows.val with
    | error refusal =>
      simp only [execute, drawSprite_of_error read] at done
      contradiction
    | ok sprite =>
      simp only [execute, drawSprite_of_read read rfl] at done
      cases done
      exact .inr ⟨rfl, rfl⟩
  case decimal x =>
    simp only [execute, writeAtIndex] at done
    split at done <;> cases done
    exact .inr ⟨rfl, rfl⟩
  case store x =>
    simp only [execute, writeAtIndex] at done
    split at done <;> cases done
    exact .inr ⟨rfl, rfl⟩
  case load x =>
    simp only [execute] at done
    split at done <;> cases done
    exact .inr ⟨rfl, rfl⟩
  case skipEqByte x byte => cases done; exact .inr ⟨rfl, after.follow_skipIf ..⟩
  case skipNeByte x byte => cases done; exact .inr ⟨rfl, after.follow_skipIf ..⟩
  case skipEq x y => cases done; exact .inr ⟨rfl, after.follow_skipIf ..⟩
  case skipNe x y => cases done; exact .inr ⟨rfl, after.follow_skipIf ..⟩
  case skipDown x => cases done; exact .inr ⟨rfl, after.follow_skipIf ..⟩
  case skipUp x => cases done; exact .inr ⟨rfl, after.follow_skipIf ..⟩
  all_goals
    cases done
    exact .inr ⟨rfl, rfl⟩

/-- Moving the program counter and counting an instruction is outside every footprint. -/
theorem Spares.moved {after : Machine} (spares : machine.Spares instruction after) (pc : Address)
    (mode : Mode) (cycles : Nat) :
    machine.Spares instruction { after with registers.pc := pc, mode, cycles } :=
  ⟨spares.memory, spares.index, spares.sp, spares.stack, spares.general, spares.delay,
    spares.sound, spares.status, spares.random⟩

/-- A wait that goes on changes nothing but what the processor is doing. -/
theorem framed_of_up {x : VIndex} (up : machine.keypad.first? = none) (mode : Mode) :
    machine.Framed (.waitKey x) { machine with mode } := by
  have stalls : machine.stalls (.waitKey x) = true := by
    simp only [Machine.stalls, up, Option.isNone_none]
  have spares : machine.Spares (.waitKey x) machine := .refl machine rfl rfl
  refine ⟨spares.moved _ mode _, rfl, rfl, rfl, ?_, ?_⟩
  · rw [stalls]
    rfl
  · rw [stalls]
    rfl

/-- A key that is down ends a wait. -/
theorem framed_resume {x : VIndex} {key : UInt8} (down : machine.keypad.first? = some key) :
    machine.Framed (.waitKey x) (machine.resume x key) := by
  have goes : machine.stalls (.waitKey x) = false := by
    simp only [Machine.stalls, down, Option.isNone_some]
  have spares : machine.Spares (.waitKey x)
      (machine.withRegisters (machine.registers.set x key)) :=
    spares_of_general rfl rfl rfl rfl rfl fun _ other => Registers.get_set_of_ne _ other _
  refine ⟨spares.moved _ _ _, rfl, rfl, rfl, ?_, ?_⟩
  · rw [goes]
    rfl
  · rw [goes]
    rfl

private theorem framed_of_done [Host η] {host : η} {flow : Flow}
    (done : (machine.execute host instruction).outcome = .ok flow) :
    machine.Framed instruction
      ((machine.execute host instruction).machine.follow machine.registers.pc flow) := by
  rcases follow_of_done done (machine.execute host instruction).machine with
    ⟨x, rfl, up, rfl⟩ | ⟨goes, moved⟩
  · have stayed : (machine.execute host (.waitKey x)).machine = machine := by
      simp only [execute, up]
    rw [stayed]
    exact framed_of_up up _
  · have spares := machine.execute_spares host instruction
    have untouched := machine.execute_untouched host instruction
    rw [moved]
    refine ⟨spares.moved _ _ _, untouched.keypad, untouched.dialect, untouched.fault, ?_, ?_⟩
    · rw [goes]
      rfl
    · rw [goes, untouched.cycles]
      rfl

theorem current?_of_fetched (active : machine.mode = .running)
    (fetched : machine.instructionAt machine.registers.pc = .ok instruction) :
    machine.current? = some instruction := by
  simp only [current?, active, fetched, Except.toOption]

/-- A step that does not halt the machine is about one instruction, and stays in its footprint. -/
theorem Stepped.framed_or_halted [Host η] {host : η} {result : Machine × η}
    (stepped : machine.Stepped host result) :
    (∃ instruction, machine.current? = some instruction ∧ machine.Framed instruction result.1 ∧
      ((∀ x y rows, instruction ≠ .draw x y rows) → result.2 = host)) ∨
      result.1.isRunning = false ∧ (machine.attempt host).2.2.isSome := by
  cases stepped with
  | @waited x waiting up =>
    have current : machine.current? = some (.waitKey x) := by simp only [current?, waiting]
    exact .inl ⟨_, current, framed_of_up up machine.mode, fun _ => rfl⟩
  | @resumed x key waiting down =>
    have current : machine.current? = some (.waitKey x) := by simp only [current?, waiting]
    exact .inl ⟨_, current, framed_resume down, fun _ => rfl⟩
  | @unfetched fault active missing =>
    refine .inr ⟨rfl, ?_⟩
    simp only [attempt, active, missing, Option.isSome_some]
  | @refused instruction fault active fetched refuses =>
    refine .inr ⟨rfl, ?_⟩
    simp only [attempt, active, fetched, execute_of_refuses refuses, Option.isSome_some]
  | @completed instruction flow active fetched done =>
    refine .inl ⟨_, current?_of_fetched active fetched, framed_of_done done, fun other => ?_⟩
    rw [machine.execute_of_not_draw other host host]

/-- A processor step without a fault is about one instruction. It leaves everything outside the
footprint of that instruction as it was, the host included unless a sprite is drawn, and it goes on
to the successor of the instruction unless that has to wait for a key. -/
theorem step_framed [Host η] {host : η} (sound : (machine.attempt host).2.2 = none) :
    ∃ instruction, machine.current? = some instruction ∧
      machine.Framed instruction (machine.step host).1 ∧
      ((∀ x y rows, instruction ≠ .draw x y rows) → (machine.step host).2 = host) := by
  obtain framed | ⟨-, failed⟩ := (machine.step_stepped host).framed_or_halted
  · exact framed
  · rw [sound] at failed
    contradiction

/-- A machine whose memory holds nothing but shifts of `V8` into `VE`. -/
def shifting : Machine where
  registers := { Registers.initial with v := Vector.replicate 16 0x81 }
  memory := ⟨Vector.replicate memorySize 0x8E⟩
  timers := { delay := 3 }
  keypad := .released
  status := { running := true }
  dialect := {}
  mode := .running
  cycles := 0
  fault := none
  random := .zeros

/-- A shift goes on behind itself, counts, and leaves a register beside its own and the flag. -/
theorem step_framed_shifting :
    (shifting.attempt Silent.silent).2.2 = none ∧
      (shifting.step Silent.silent).1.registers.pc = 0x202 ∧
      (shifting.step Silent.silent).1.cycles = 1 ∧
      (shifting.step Silent.silent).1.registers.get 8 = 0x81 := by
  have read : shifting.memory.readWord shifting.registers.pc = .ok 0x8E8E := by
    simp only [Memory.readWord, Memory.read, Memory.get?, shifting, Vector.getElem?_replicate]
    rfl
  have decoded : Instruction.decode? 0x8E8E = some (.shiftLeft 14 8) := by decide
  have fetched : shifting.instructionAt shifting.registers.pc = .ok (.shiftLeft 14 8) := by
    simp only [instructionAt, read, decoded]
  have active : shifting.mode = .running := rfl
  have sound : (shifting.attempt Silent.silent).2.2 = none := by
    simp only [attempt, active, fetched]
    rfl
  obtain ⟨instruction, current, framed, -⟩ := step_framed sound
  rw [current?_of_fetched active fetched, Option.some.injEq] at current
  subst current
  have beside : ¬(Instruction.shiftLeft 14 8).Targets shifting.dialect 8 := by
    change ¬((8 : VIndex) = 14 ∨ (8 : VIndex) = Registers.flagIndex)
    decide
  refine ⟨sound, framed.counter, framed.cycles, ?_⟩
  rw [framed.general 8 beside]
  rfl

end Machine

end Chip8
