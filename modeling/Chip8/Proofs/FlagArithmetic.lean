import Chip8.Proofs.Footprint

/-! # Arithmetic in whole numbers

The arithmetic instructions work on bytes and put what does not fit into the flag register.
`Computes` says what each of them is to leave in whole numbers, whether or not its registers are the
same or the flag register is among them: the flag is always right, and the result is right together
with the flag unless the flag has taken its place. `arithmetic_exact` is the result, for the
instruction by itself and for the processor step that carries it out.
-/

namespace Chip8

universe u

variable {η : Type u}

namespace Flagged

private theorem bit_add (a b : UInt8) :
    (add a b).bit = if 255 < a.toNat + b.toNat then 1 else 0 := by
  simp only [bit, add, decide_eq_true_eq]

private theorem bit_sub (a b : UInt8) : (sub a b).bit = if b.toNat ≤ a.toNat then 1 else 0 := by
  simp only [bit, sub, decide_eq_true_eq, UInt8.le_iff_toNat_le]

/-- Half of a byte leaves its last bit over. -/
theorem bit_half (a : UInt8) : (half a).bit = a.toNat % 2 := by
  have whole := half_eq a
  have single : (half a).bit ≤ 1 := by
    simp only [bit]
    split <;> decide
  omega

private theorem bit_double (a : UInt8) : (double a).bit = if 128 ≤ a.toNat then 1 else 0 := by
  simp only [bit, double, decide_eq_true_eq, UInt8.le_iff_toNat_le, UInt8.reduceToNat]

end Flagged

namespace Machine

def number (machine : Machine) (x : VIndex) : Nat := (machine.registers.get x).toNat

def flag (machine : Machine) : Nat := machine.number Registers.flagIndex

/-- What an arithmetic instruction leaves, said in whole numbers. The operands are those before the
instruction, in whatever registers they stand. -/
def Computes (machine after : Machine) : Instruction → Prop
  | .add x y =>
    after.flag = (if 255 < machine.number x + machine.number y then 1 else 0) ∧
      (x ≠ Registers.flagIndex →
        after.number x + 256 * after.flag = machine.number x + machine.number y)
  | .sub x y =>
    after.flag = (if machine.number y ≤ machine.number x then 1 else 0) ∧
      (x ≠ Registers.flagIndex →
        (after.number x : Int) = machine.number x - machine.number y + 256 * (1 - after.flag))
  | .subFrom x y =>
    after.flag = (if machine.number x ≤ machine.number y then 1 else 0) ∧
      (x ≠ Registers.flagIndex →
        (after.number x : Int) = machine.number y - machine.number x + 256 * (1 - after.flag))
  | .shiftRight x y =>
    let source := if machine.dialect.shiftVxOnly then machine.number x else machine.number y
    after.flag = source % 2 ∧
      (x ≠ Registers.flagIndex → 2 * after.number x + after.flag = source)
  | .shiftLeft x y =>
    let source := if machine.dialect.shiftVxOnly then machine.number x else machine.number y
    after.flag = (if 128 ≤ source then 1 else 0) ∧
      (x ≠ Registers.flagIndex → after.number x + 256 * after.flag = 2 * source)
  | .addByte x byte =>
    after.number x = (machine.number x + byte.toNat) % 256 ∧
      (x ≠ Registers.flagIndex → after.flag = machine.flag)
  | .addIndex x =>
    after.registers.i.toNat = (machine.registers.i.toNat + machine.number x) % 4096 ∧
      after.flag = if 4095 < machine.registers.i.toNat + machine.number x then 1 else 0
  | .decimal x =>
    machine.registers.i.toNat + 3 ≤ memorySize →
      ∃ hundreds tens ones : UInt8,
        after.memory.get? machine.registers.i.toNat = some hundreds ∧
        after.memory.get? (machine.registers.i.toNat + 1) = some tens ∧
        after.memory.get? (machine.registers.i.toNat + 2) = some ones ∧
        hundreds.toNat ≤ 9 ∧ tens.toNat ≤ 9 ∧ ones.toNat ≤ 9 ∧
        100 * hundreds.toNat + 10 * tens.toNat + ones.toNat = machine.number x
  | _ => True

variable {machine after : Machine}

/-- Only the general registers, the index and memory matter. -/
theorem computes_congr {other : Machine}
    (general : ∀ x, other.registers.get x = after.registers.get x)
    (index : other.registers.i = after.registers.i) (memory : other.memory = after.memory)
    (instruction : Instruction) :
    machine.Computes other instruction = machine.Computes after instruction := by
  cases instruction <;> simp only [Computes, flag, number, general, index, memory]

private theorem flag_setFlag (machine : Machine) (registers : Registers) (flag : Bool) :
    (machine.withRegisters (registers.setFlag flag)).flag = if flag then 1 else 0 := by
  simp only [Machine.flag, number, withRegisters, Registers.setFlag, Registers.get_set, if_true]
  split <;> rfl

/-- The flag is written last, so it stands even where the result was to go. -/
theorem flag_setFlagged (machine : Machine) (x : VIndex) (result : Flagged) :
    (machine.withRegisters (machine.registers.setFlagged x result)).flag = result.bit :=
  machine.flag_setFlag _ result.flag

private theorem number_setFlagged {x : VIndex} (other : x ≠ Registers.flagIndex)
    (result : Flagged) :
    (machine.withRegisters (machine.registers.setFlagged x result)).number x =
      result.value.toNat := by
  simp only [number, withRegisters, Registers.setFlagged, Registers.get_setFlag_of_ne _ other,
    Registers.get_set, if_true]

private theorem number_shiftSource (machine : Machine) (x y : VIndex) :
    machine.number (machine.shiftSource x y) =
      if machine.dialect.shiftVxOnly then machine.number x else machine.number y := by
  simp only [shiftSource]
  split <;> rfl

/-- The decimal digits of a byte are digits and make up the byte. -/
theorem decimalDigits_eq (value : UInt8) :
    ∃ hundreds tens ones : UInt8, decimalDigits value = [hundreds, tens, ones] ∧
      hundreds.toNat ≤ 9 ∧ tens.toNat ≤ 9 ∧ ones.toNat ≤ 9 ∧
      100 * hundreds.toNat + 10 * tens.toNat + ones.toNat = value.toNat := by
  have bound := value.toNat_lt
  refine ⟨_, _, _, rfl, ?_⟩
  simp only [UInt8.toNat_div, UInt8.toNat_mod, UInt8.reduceToNat]
  omega

/-- The difference of two bytes is that of the integers, up to what was borrowed. -/
theorem setFlagged_sub {x : VIndex} (other : x ≠ Registers.flagIndex) (a b : UInt8) :
    ((machine.withRegisters (machine.registers.setFlagged x (.sub a b))).number x : Int) =
      a.toNat - b.toNat + 256 *
        (1 - (machine.withRegisters (machine.registers.setFlagged x (.sub a b))).flag) := by
  have whole := Flagged.sub_eq a b
  rw [number_setFlagged other, flag_setFlagged]
  omega

private theorem execute_computes [Host η] (machine : Machine) (host : η)
    (instruction : Instruction) :
    machine.Computes (machine.execute host instruction).machine instruction := by
  cases instruction
  case add x y =>
    refine ⟨(machine.flag_setFlagged x _).trans (Flagged.bit_add _ _), fun other => ?_⟩
    simp only [execute, number_setFlagged other, flag_setFlagged]
    exact Flagged.add_eq _ _
  case sub x y =>
    exact ⟨(machine.flag_setFlagged x _).trans (Flagged.bit_sub _ _),
      fun other => setFlagged_sub other _ _⟩
  case subFrom x y =>
    exact ⟨(machine.flag_setFlagged x _).trans (Flagged.bit_sub _ _),
      fun other => setFlagged_sub other _ _⟩
  case shiftRight x y =>
    have source := machine.number_shiftSource x y
    simp only [Computes, execute, ← source, flag_setFlagged]
    refine ⟨Flagged.bit_half _, fun other => ?_⟩
    rw [number_setFlagged other]
    exact Flagged.half_eq _
  case shiftLeft x y =>
    have source := machine.number_shiftSource x y
    simp only [Computes, execute, ← source, flag_setFlagged]
    refine ⟨Flagged.bit_double _, fun other => ?_⟩
    rw [number_setFlagged other]
    exact Flagged.double_eq _
  case addByte x byte =>
    refine ⟨?_, fun other => ?_⟩
    · simp only [execute, number, withRegisters, Registers.get_set, if_true, UInt8.toNat_add]
    · simp only [execute, flag, number, withRegisters,
        Registers.get_set_of_ne _ other.symm]
  case addIndex x =>
    refine ⟨?_, ?_⟩
    · simp only [execute, withRegisters, Registers.setFlag_i, number, UInt16.toNat_ofNat']
      omega
    · simp only [execute, flag_setFlag, decide_eq_true_eq]
      rfl
  case decimal x =>
    intro within
    obtain ⟨hundreds, tens, ones, digits, rest⟩ := decimalDigits_eq (machine.registers.get x)
    have fits : machine.registers.i.toNat + [hundreds, tens, ones].length ≤ memorySize := within
    have written := machine.memory.writeRange_of_within fits
    have bytes := Memory.get?_of_writeRange written
    have after : (machine.execute host (.decimal x)).machine.memory =
        ⟨Memory.splice machine.memory.bytes machine.registers.i.toNat [hundreds, tens, ones]⟩ := by
      simp only [execute, writeAtIndex, digits, written, id]
    rw [after]
    refine ⟨hundreds, tens, ones, ?_, ?_, ?_, rest⟩
    · rw [bytes, if_pos ⟨Nat.le_refl _, by simp⟩, Nat.sub_self]
      rfl
    · rw [bytes, if_pos ⟨by omega, by simp⟩, Nat.add_sub_cancel_left]
      rfl
    · rw [bytes, if_pos ⟨by omega, by simp⟩, Nat.add_sub_cancel_left]
      rfl
  all_goals trivial

/-- A processor step leaves the registers and the memory of its instruction, the program counter
apart. -/
theorem step_of_fetched [Host η] {instruction : Instruction} (active : machine.mode = .running)
    (fetched : machine.instructionAt machine.registers.pc = .ok instruction) (host : η) :
    ∃ pc, (machine.step host).1.registers =
        { (machine.execute host instruction).machine.registers with pc } ∧
      (machine.step host).1.memory = (machine.execute host instruction).machine.memory := by
  cases outcome : (machine.execute host instruction).outcome with
  | error fault =>
    have refuses := execute_eq_error_iff.mp outcome
    rw [step_of_refuses active fetched refuses, execute_of_refuses refuses]
    exact ⟨_, rfl, rfl⟩
  | ok flow =>
    rw [step_of_done active fetched outcome]
    cases flow <;> exact ⟨_, rfl, rfl⟩

/-- Arithmetic instructions agree with the integers, whichever registers they name, and no general
register changes that is not a target of the instruction. A processor step adds nothing to that. -/
theorem arithmetic_exact [Host η] (machine : Machine) (host : η) (instruction : Instruction) :
    (machine.Computes (machine.execute host instruction).machine instruction ∧
      ∀ register, ¬instruction.Targets machine.dialect register →
        (machine.execute host instruction).machine.registers.get register =
          machine.registers.get register) ∧
    (machine.mode = .running → machine.instructionAt machine.registers.pc = .ok instruction →
      machine.Computes (machine.step host).1 instruction ∧
        ∀ register, ¬instruction.Targets machine.dialect register →
          (machine.step host).1.registers.get register = machine.registers.get register) := by
  have computes := machine.execute_computes host instruction
  have general := (machine.execute_spares host instruction).general
  refine ⟨⟨computes, general⟩, fun active fetched => ?_⟩
  obtain ⟨pc, registers, memory⟩ := step_of_fetched active fetched host
  have kept (x : VIndex) : (machine.step host).1.registers.get x =
      (machine.execute host instruction).machine.registers.get x := by
    rw [registers]
    rfl
  refine ⟨?_, fun register outside => (kept register).trans (general register outside)⟩
  rw [computes_congr kept (by rw [registers]) memory]
  exact computes

end Machine

end Chip8
