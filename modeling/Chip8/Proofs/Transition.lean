import Chip8.Machine.Cycle

/-! # What a processor step can do

An instruction is refused for one of three reasons: a return without a caller, a call without a free
slot, or a range that leaves memory. `execute_of_refuses` says what is left of it then, and
`execute_untouched` what no instruction touches. `Stepped` lists the ways in which a processor step
ends, so whoever reasons about steps goes through five cases and not through the instruction set.
-/

namespace Chip8

universe u v

variable {η : Type u} {θ : Type v}

namespace Memory

/-- A word is refused when one of its bytes is out of memory, under the first such address. -/
theorem readWord_eq_error_iff {memory : Memory} {address : Address} {refusal : Refusal} :
    memory.readWord address = .error refusal ↔
      memorySize ≤ address.toNat + 1 ∧
        refusal = .invalidAddress (max address.toNat memorySize) := by
  have read (place : Nat) : memory.read place =
      if inside : place < memorySize then .ok memory.bytes[place]
      else .error (.invalidAddress place) := by
    simp only [Memory.read, get?]
    split
    · next byte found =>
      obtain ⟨inside, rfl⟩ := Vector.getElem?_eq_some_iff.mp found
      rw [dif_pos inside]
    · next missing => rw [dif_neg (by simpa using missing)]
  simp only [readWord, read, bind, Except.bind]
  by_cases high : address.toNat < memorySize
  · by_cases low : address.toNat + 1 < memorySize
    · have inside : ¬memorySize ≤ address.toNat + 1 := by omega
      simp [high, low, inside, pure, Except.pure]
    · have last : address.toNat + 1 = memorySize := by omega
      have named : max address.toNat memorySize = memorySize := by omega
      simp [high, last, named, eq_comm]
  · simp [high, show max address.toNat memorySize = address.toNat by omega, eq_comm]
    omega

/-- A range inside memory is read byte by byte. -/
theorem exists_readRange (memory : Memory) {start length : Nat}
    (within : start + length ≤ memorySize) :
    ∃ bytes, memory.readRange start length = .ok bytes ∧ bytes.length = length ∧
      ∀ offset < length, bytes[offset]? = memory.get? (start + offset) := by
  refine ⟨_, dif_pos within, List.length_ofFn, ?_⟩
  intro offset inside
  simp [get?, inside, show start + offset < memorySize by omega]

private theorem readRange_of_beyond (memory : Memory) {start length : Nat}
    (beyond : memorySize < start + length) :
    memory.readRange start length = .error (.invalidAddress (start + length - 1)) :=
  readRange_eq_error_iff.mpr ⟨beyond, rfl⟩

theorem within_of_readRange {memory : Memory} {start length : Nat} {bytes : List UInt8}
    (read : memory.readRange start length = .ok bytes) : start + length ≤ memorySize := by
  simp only [readRange] at read
  split at read
  · assumption
  · contradiction

theorem within_of_writeRange {memory written : Memory} {start : Nat} {bytes : List UInt8}
    (done : memory.writeRange start bytes = .ok written) : start + bytes.length ≤ memorySize := by
  simp only [writeRange] at done
  split at done
  · assumption
  · contradiction

private theorem writeRange_of_beyond (memory : Memory) {start : Nat} {bytes : List UInt8}
    (beyond : memorySize < start + bytes.length) :
    memory.writeRange start bytes = .error (.invalidAddress (start + bytes.length - 1)) :=
  writeRange_eq_error_iff.mpr ⟨beyond, rfl⟩

theorem writeRange_of_within (memory : Memory) {start : Nat} {bytes : List UInt8}
    (within : start + bytes.length ≤ memorySize) :
    memory.writeRange start bytes = .ok ⟨splice memory.bytes start bytes⟩ := if_pos within

end Memory

@[simp] theorem Registers.length_block (registers : Registers) (x : VIndex) :
    (registers.block x).length = x.val + 1 := by
  simp only [block, List.length_take, Vector.length_toList]
  omega

/-- How many bytes at the index an instruction reads or writes, for those that do. -/
def Instruction.span? : Instruction → Option Nat
  | .draw _ _ rows => some rows.val
  | .decimal _ => some 3
  | .store x => some (x.val + 1)
  | .load x => some (x.val + 1)
  | _ => none

namespace Machine

/-- Why a machine refuses an instruction. -/
inductive Refuses (machine : Machine) : Instruction → Fault → Prop
  | underflow (empty : machine.registers.sp = 0) : Refuses machine .ret .stackUnderflow
  | overflow {target : Target} (full : stackDepth ≤ machine.registers.sp.toNat) :
      Refuses machine (.call target) .stackOverflow
  | outside {instruction : Instruction} {length : Nat} (spanned : instruction.span? = some length)
      (beyond : memorySize < machine.registers.i.toNat + length) :
      Refuses machine instruction
        (.invalidMemoryAccess (machine.registers.i.toNat + length - 1))

/-- What is left of a refused instruction: a sprite has already cleared the flag register. -/
def refused (machine : Machine) : Instruction → Machine
  | .draw .. => machine.withRegisters (machine.registers.setFlag false)
  | _ => machine

/-- The points of the display that a sprite covers when it is drawn at two registers. -/
def spritePoints (machine : Machine) (x y : VIndex) (sprite : List UInt8) : List (Nat × Nat) :=
  Sprite.points machine.dialect.wrapSprites (machine.registers.get x).toNat
    (machine.registers.get y).toNat sprite

/-- A sprite inside memory sets the flag register once, to whether a lit point was hit. -/
theorem drawSprite_of_read [Host η] {machine : Machine} {host after : η} {x y : VIndex}
    {rows : RowCount} {sprite : List UInt8} {hit : Bool}
    (read : machine.memory.readRange machine.registers.i.toNat rows.val = .ok sprite)
    (plotted : Sprite.plot host (machine.spritePoints x y sprite) = (hit, after)) :
    machine.drawSprite host x y rows =
      ⟨machine.withRegisters (machine.registers.setFlag hit), Host.screen after .updating,
        .ok .next⟩ := by
  rw [spritePoints] at plotted
  simp only [drawSprite, withRegisters, Registers.setFlag_i, read, plotted]
  cases hit
  · rfl
  · simp only [if_true, Registers.setFlag_setFlag]

/-- A sprite that leaves memory clears the flag register and plots nothing. -/
theorem drawSprite_of_error [Host η] {machine : Machine} {rows : RowCount}
    {refusal : Memory.Refusal}
    (read : machine.memory.readRange machine.registers.i.toNat rows.val = .error refusal) (host : η)
    (x y : VIndex) :
    machine.drawSprite host x y rows =
      ⟨machine.withRegisters (machine.registers.setFlag false), host,
        .error (.ofRefusal refusal)⟩ := by
  simp only [drawSprite, withRegisters, Registers.setFlag_i, read]

/-- Only a sprite has anything to do with the host. -/
theorem execute_of_not_draw [Host η] [Host θ] (machine : Machine) {instruction : Instruction}
    (other : ∀ x y rows, instruction ≠ .draw x y rows) (host : η) (elsewhere : θ) :
    machine.execute host instruction =
      ⟨(machine.execute elsewhere instruction).machine, host,
        (machine.execute elsewhere instruction).outcome⟩ := by
  cases instruction
  case draw x y rows => exact absurd rfl (other x y rows)
  case ret =>
    simp only [execute]
    split <;> rfl
  case call target =>
    simp only [execute]
    split <;> rfl
  case waitKey x =>
    simp only [execute]
    split <;> rfl
  case decimal x =>
    simp only [execute, writeAtIndex]
    split <;> rfl
  case store x =>
    simp only [execute, writeAtIndex]
    split <;> rfl
  case load x =>
    simp only [execute]
    split <;> rfl
  all_goals rfl

theorem execute_of_refuses [Host η] {machine : Machine} {instruction : Instruction}
    {fault : Fault} (refuses : machine.Refuses instruction fault) (host : η) :
    machine.execute host instruction = ⟨machine.refused instruction, host, .error fault⟩ := by
  cases refuses with
  | underflow empty => simp only [execute, Registers.pop?_eq_none_iff.mpr empty, refused]
  | overflow full => simp only [execute, Registers.push?_eq_none_iff.mpr full, refused]
  | @outside instruction length spanned beyond =>
    cases instruction with
    | draw x y rows =>
      cases spanned
      have read := machine.memory.readRange_of_beyond beyond
      simp only [execute, drawSprite_of_error read, Fault.ofRefusal, refused]
    | decimal x =>
      cases spanned
      have beyond : memorySize <
          machine.registers.i.toNat + (decimalDigits (machine.registers.get x)).length := beyond
      simp only [execute, writeAtIndex, Memory.writeRange_of_beyond _ beyond, Fault.ofRefusal,
        refused]
      rfl
    | store x =>
      cases spanned
      rw [← machine.registers.length_block x] at beyond ⊢
      simp only [execute, writeAtIndex, Memory.writeRange_of_beyond _ beyond, Fault.ofRefusal,
        refused]
    | load x =>
      cases spanned
      simp only [execute, Memory.readRange_of_beyond _ beyond, Fault.ofRefusal, refused]
    | _ => contradiction

/-- An instruction is refused or says where the program goes on. -/
theorem execute_ok_or_refuses [Host η] (machine : Machine) (host : η) (instruction : Instruction) :
    (∃ flow, (machine.execute host instruction).outcome = .ok flow) ∨
      ∃ fault, machine.Refuses instruction fault := by
  by_cases beyond : ∃ length, instruction.span? = some length ∧
      memorySize < machine.registers.i.toNat + length
  · obtain ⟨length, spanned, beyond⟩ := beyond
    exact .inr ⟨_, .outside spanned beyond⟩
  have within (length : Nat) (spanned : instruction.span? = some length) :
      machine.registers.i.toNat + length ≤ memorySize :=
    Nat.le_of_not_lt fun past => beyond ⟨length, spanned, past⟩
  cases instruction
  case ret =>
    cases popped : machine.registers.pop? with
    | none => exact .inr ⟨_, .underflow (Registers.pop?_eq_none_iff.mp popped)⟩
    | some popped' => exact .inl ⟨_, by simp only [execute, popped]; rfl⟩
  case call target =>
    cases pushed : machine.registers.push? (machine.registers.pc + 2) with
    | none => exact .inr ⟨_, .overflow (Registers.push?_eq_none_iff.mp pushed)⟩
    | some pushed' => exact .inl ⟨_, by simp only [execute, pushed]; rfl⟩
  case waitKey x =>
    left
    simp only [execute]
    split <;> exact ⟨_, rfl⟩
  case draw x y rows =>
    obtain ⟨sprite, read, -⟩ := machine.memory.exists_readRange (within _ rfl)
    exact .inl ⟨_, by simp only [execute, drawSprite_of_read read rfl]; rfl⟩
  case decimal x =>
    have fits : machine.registers.i.toNat + (decimalDigits (machine.registers.get x)).length ≤
      memorySize := within _ rfl
    exact .inl ⟨_, by simp only [execute, writeAtIndex, Memory.writeRange_of_within _ fits]; rfl⟩
  case store x =>
    have fits := within _ rfl
    rw [← machine.registers.length_block x] at fits
    exact .inl ⟨_, by simp only [execute, writeAtIndex, Memory.writeRange_of_within _ fits]; rfl⟩
  case load x =>
    obtain ⟨bytes, read, -⟩ := machine.memory.exists_readRange (within _ rfl)
    exact .inl ⟨_, by simp only [execute, read]; rfl⟩
  all_goals exact .inl ⟨_, rfl⟩

/-- The fault of an instruction is the reason for which it is refused. -/
theorem execute_eq_error_iff [Host η] {machine : Machine} {host : η} {instruction : Instruction}
    {fault : Fault} :
    (machine.execute host instruction).outcome = .error fault ↔
      machine.Refuses instruction fault := by
  constructor
  · intro failed
    obtain ⟨flow, done⟩ | ⟨cause, refuses⟩ := machine.execute_ok_or_refuses host instruction
    · rw [done] at failed
      contradiction
    · rw [execute_of_refuses refuses] at failed
      cases failed
      exact refuses
  · intro refuses
    rw [execute_of_refuses refuses]

/-- The parts of a machine that are no business of an instruction. -/
structure Untouched (before after : Machine) : Prop where
  keypad : after.keypad = before.keypad
  dialect : after.dialect = before.dialect
  mode : after.mode = before.mode
  cycles : after.cycles = before.cycles
  fault : after.fault = before.fault
  /-- A clear may have become pending. -/
  status : after.status = { before.status with clearDisplay := after.status.clearDisplay }

theorem advanceIndex_eq (machine : Machine) (x : VIndex) :
    machine.advanceIndex x = machine.withRegisters { machine.registers with
      i := if machine.dialect.incrementIndex then machine.registers.i + UInt16.ofNat (x.val + 1)
        else machine.registers.i } := by
  unfold advanceIndex
  split <;> rfl

private theorem Untouched.refl (machine : Machine) : machine.Untouched machine := by
  constructor <;> rfl

private theorem untouched_withRegisters (machine : Machine) (registers : Registers) :
    machine.Untouched (machine.withRegisters registers) := by
  constructor <;> rfl

theorem execute_untouched [Host η] (machine : Machine) (host : η) (instruction : Instruction) :
    machine.Untouched (machine.execute host instruction).machine := by
  cases instruction
  case draw x y rows =>
    cases read : machine.memory.readRange machine.registers.i.toNat rows.val with
    | error refusal =>
      simp only [execute, drawSprite_of_error read]
      exact machine.untouched_withRegisters _
    | ok sprite =>
      simp only [execute, drawSprite_of_read read rfl]
      exact machine.untouched_withRegisters _
  case decimal x =>
    simp only [execute, writeAtIndex]
    split
    · exact .refl machine
    · constructor <;> rfl
  case store x =>
    simp only [execute, writeAtIndex, advanceIndex_eq, withRegisters]
    split
    · exact .refl machine
    · constructor <;> rfl
  case load x =>
    simp only [execute, advanceIndex_eq, withRegisters]
    split
    · exact .refl machine
    · exact machine.untouched_withRegisters _
  case ret =>
    simp only [execute]
    split
    · exact .refl machine
    · exact machine.untouched_withRegisters _
  case call target =>
    simp only [execute]
    split
    · exact .refl machine
    · exact machine.untouched_withRegisters _
  case waitKey x =>
    simp only [execute]
    split
    · exact machine.untouched_withRegisters _
    · exact .refl machine
  all_goals constructor <;> rfl

/-- Where a completed instruction can lead. -/
inductive Leads (machine : Machine) : Instruction → Flow → Prop
  | onward {instruction : Instruction} : Leads machine instruction .next
  | skipped {instruction : Instruction} : Leads machine instruction .skip
  | returned {address : Address} {registers : Registers}
      (popped : machine.registers.pop? = some (address, registers)) :
      Leads machine .ret (.jump address)
  | jumped (target : Target) : Leads machine (.jump target) (.jump (UInt16.ofNat target.val))
  | called (target : Target) : Leads machine (.call target) (.jump (UInt16.ofNat target.val))
  | offset (target : Target) : Leads machine (.jumpOffset target)
      (.jump (UInt16.ofNat (target.val + (machine.registers.get Registers.offsetIndex).toNat)))
  | waits {x : VIndex} (up : machine.keypad.first? = none) :
      Leads machine (.waitKey x) (.waitForKey x)

private theorem leads_skipIf (machine : Machine) (instruction : Instruction) (condition : Bool) :
    machine.Leads instruction (if condition then .skip else .next) := by
  cases condition
  · exact .onward
  · exact .skipped

theorem execute_leads [Host η] {machine : Machine} {host : η} {instruction : Instruction}
    {flow : Flow} (done : (machine.execute host instruction).outcome = .ok flow) :
    machine.Leads instruction flow := by
  cases instruction
  case ret =>
    simp only [execute] at done
    split at done
    · contradiction
    · next popped =>
      cases done
      exact .returned popped
  case call target =>
    simp only [execute] at done
    split at done
    · contradiction
    · cases done
      exact .called target
  case jump target =>
    cases done
    exact .jumped target
  case jumpOffset target =>
    cases done
    exact .offset target
  case waitKey x =>
    simp only [execute] at done
    split at done
    · cases done
      exact .onward
    · next up =>
      cases done
      exact .waits up
  case draw x y rows =>
    cases read : machine.memory.readRange machine.registers.i.toNat rows.val with
    | error refusal =>
      simp only [execute, drawSprite_of_error read] at done
      contradiction
    | ok sprite =>
      simp only [execute, drawSprite_of_read read rfl] at done
      cases done
      exact .onward
  case decimal x =>
    simp only [execute, writeAtIndex] at done
    split at done <;> cases done
    exact .onward
  case store x =>
    simp only [execute, writeAtIndex] at done
    split at done <;> cases done
    exact .onward
  case load x =>
    simp only [execute] at done
    split at done <;> cases done
    exact .onward
  case skipEqByte x byte => cases done; exact leads_skipIf ..
  case skipNeByte x byte => cases done; exact leads_skipIf ..
  case skipEq x y => cases done; exact leads_skipIf ..
  case skipNe x y => cases done; exact leads_skipIf ..
  case skipDown x => cases done; exact leads_skipIf ..
  case skipUp x => cases done; exact leads_skipIf ..
  all_goals cases done; exact .onward

/-- How a processor step ends. Only a completed instruction or a key that was waited for moves the
program on; only a fault speaks to the host about anything but a sprite. -/
inductive Stepped [Host η] (machine : Machine) (host : η) : Machine × η → Prop
  | waited {x : VIndex} (waiting : machine.mode = .waitingForKey x)
      (up : machine.keypad.first? = none) : Stepped machine host (machine, host)
  | resumed {x : VIndex} {key : UInt8} (waiting : machine.mode = .waitingForKey x)
      (down : machine.keypad.first? = some key) :
      Stepped machine host (machine.resume x key, host)
  | unfetched {fault : Fault} (active : machine.mode = .running)
      (missing : machine.instructionAt machine.registers.pc = .error fault) :
      Stepped machine host (machine.halt host fault)
  | refused {instruction : Instruction} {fault : Fault} (active : machine.mode = .running)
      (fetched : machine.instructionAt machine.registers.pc = .ok instruction)
      (refuses : machine.Refuses instruction fault) :
      Stepped machine host ((machine.refused instruction).halt host fault)
  | completed {instruction : Instruction} {flow : Flow} (active : machine.mode = .running)
      (fetched : machine.instructionAt machine.registers.pc = .ok instruction)
      (done : (machine.execute host instruction).outcome = .ok flow) :
      Stepped machine host
        ((machine.execute host instruction).machine.follow machine.registers.pc flow,
          (machine.execute host instruction).host)

section Steps

variable [Host η] {machine : Machine}

theorem step_of_waited {x : VIndex} (waiting : machine.mode = .waitingForKey x)
    (up : machine.keypad.first? = none) (host : η) : machine.step host = (machine, host) := by
  simp only [step, attempt, waiting, up]

theorem step_of_resumed {x : VIndex} {key : UInt8} (waiting : machine.mode = .waitingForKey x)
    (down : machine.keypad.first? = some key) (host : η) :
    machine.step host = (machine.resume x key, host) := by
  simp only [step, attempt, waiting, down]

theorem step_of_unfetched {fault : Fault} (active : machine.mode = .running)
    (missing : machine.instructionAt machine.registers.pc = .error fault) (host : η) :
    machine.step host = machine.halt host fault := by
  simp only [step, attempt, active, missing]

theorem step_of_refuses {instruction : Instruction} {fault : Fault}
    (active : machine.mode = .running)
    (fetched : machine.instructionAt machine.registers.pc = .ok instruction)
    (refuses : machine.Refuses instruction fault) (host : η) :
    machine.step host = (machine.refused instruction).halt host fault := by
  simp only [step, attempt, active, fetched, execute_of_refuses refuses]

theorem step_of_done {host : η} {instruction : Instruction} {flow : Flow}
    (active : machine.mode = .running)
    (fetched : machine.instructionAt machine.registers.pc = .ok instruction)
    (done : (machine.execute host instruction).outcome = .ok flow) :
    machine.step host =
      ((machine.execute host instruction).machine.follow machine.registers.pc flow,
        (machine.execute host instruction).host) := by
  simp only [step, attempt, active, fetched, done]

end Steps

theorem step_stepped [Host η] (machine : Machine) (host : η) :
    Stepped machine host (machine.step host) := by
  cases mode : machine.mode with
  | waitingForKey x =>
    cases key : machine.keypad.first? with
    | none =>
      rw [step_of_waited mode key]
      exact .waited mode key
    | some key' =>
      rw [step_of_resumed mode key]
      exact .resumed mode key
  | running =>
    cases fetched : machine.instructionAt machine.registers.pc with
    | error fault =>
      rw [step_of_unfetched mode fetched]
      exact .unfetched mode fetched
    | ok instruction =>
      cases outcome : (machine.execute host instruction).outcome with
      | error fault =>
        have refuses := execute_eq_error_iff.mp outcome
        rw [step_of_refuses mode fetched refuses]
        exact .refused mode fetched refuses
      | ok flow =>
        rw [step_of_done mode fetched outcome]
        exact .completed mode fetched outcome

end Machine

end Chip8
