import Chip8.Proofs.Calls

/-! # The faults of a processor step

`Faults` lists what can go wrong when an active processor takes a step: nothing is fetched, the word
means nothing, the call stack is empty or full, or a range leaves memory. `step_faults` says that a
step reports a fault exactly for one of these reasons, and that the step then changes nothing but
the running bit, the stored fault and, if a sprite was to be drawn, the flag register. A stack
pointer beyond the call stack is left out; `InBounds` shows that no console gets there.
-/

namespace Chip8.Machine

universe u

variable {η : Type u} {machine : Machine} {fault : Fault}

/-- Why a step of an active processor raises a fault. -/
inductive Faults (machine : Machine) : Fault → Prop
  | outOfMemory (outside : memorySize ≤ machine.registers.pc.toNat) :
      Faults machine (.invalidMemoryAccess machine.registers.pc.toNat)
  | acrossEnd (last : machine.registers.pc.toNat + 1 = memorySize) :
      Faults machine (.invalidMemoryAccess memorySize)
  | unknown {word : Word} (read : machine.memory.readWord machine.registers.pc = .ok word)
      (meaningless : Instruction.decode? word = none) :
      Faults machine (.unknownOpcode word machine.registers.pc)
  | underflow (fetched : machine.instructionAt machine.registers.pc = .ok .ret)
      (empty : machine.registers.sp = 0) : Faults machine .stackUnderflow
  | overflow {target : Target}
      (fetched : machine.instructionAt machine.registers.pc = .ok (.call target))
      (full : machine.registers.sp.toNat = stackDepth) : Faults machine .stackOverflow
  | outside {instruction : Instruction} {length : Nat}
      (fetched : machine.instructionAt machine.registers.pc = .ok instruction)
      (spanned : instruction.span? = some length)
      (beyond : memorySize < machine.registers.i.toNat + length) :
      Faults machine (.invalidMemoryAccess (machine.registers.i.toNat + length - 1))

/-- Whether the next instruction is a sprite to draw. -/
def isDrawing (machine : Machine) : Bool :=
  match machine.instructionAt machine.registers.pc with
  | .ok (.draw ..) => true
  | _ => false

/-- What a step that raises a fault leaves of a machine. -/
def faulted (machine : Machine) (fault : Fault) : Machine :=
  { machine with
    registers := if machine.isDrawing then machine.registers.setFlag false else machine.registers
    status.running := false
    fault := some fault }

theorem instructionAt_eq_error_iff {address : Address} :
    machine.instructionAt address = .error fault ↔
      (memorySize ≤ address.toNat + 1 ∧
        fault = .invalidMemoryAccess (max address.toNat memorySize)) ∨
      ∃ word, machine.memory.readWord address = .ok word ∧ Instruction.decode? word = none ∧
        fault = .unknownOpcode word address := by
  cases read : machine.memory.readWord address with
  | error refusal =>
    obtain ⟨outside, rfl⟩ := Memory.readWord_eq_error_iff.mp read
    simp [instructionAt, read, Fault.ofRefusal, outside, eq_comm]
  | ok word =>
    have inside : ¬memorySize ≤ address.toNat + 1 := by
      intro outside
      rw [Memory.readWord_eq_error_iff.mpr ⟨outside, rfl⟩] at read
      contradiction
    cases decoded : Instruction.decode? word <;>
      simp [instructionAt, read, decoded, inside, eq_comm]

private theorem Faults.of_unfetched
    (missing : machine.instructionAt machine.registers.pc = .error fault) :
    machine.Faults fault := by
  rcases instructionAt_eq_error_iff.mp missing with ⟨outside, rfl⟩ | ⟨word, read, none, rfl⟩
  · by_cases across : machine.registers.pc.toNat + 1 = memorySize
    · rw [Nat.max_eq_right (by omega)]
      exact .acrossEnd across
    · rw [Nat.max_eq_left (by omega)]
      exact .outOfMemory (by omega)
  · exact .unknown read none

private theorem Faults.of_refuses {instruction : Instruction}
    (depth : machine.registers.sp.toNat ≤ stackDepth)
    (fetched : machine.instructionAt machine.registers.pc = .ok instruction)
    (refuses : machine.Refuses instruction fault) : machine.Faults fault := by
  cases refuses with
  | underflow empty => exact .underflow fetched empty
  | overflow full => exact .overflow fetched (Nat.le_antisymm depth full)
  | outside spanned beyond => exact .outside fetched spanned beyond

/-- Every reason is about what is fetched or about why it is refused. -/
theorem Faults.cases_fetch (faults : machine.Faults fault) :
    machine.instructionAt machine.registers.pc = .error fault ∨
      ∃ instruction, machine.instructionAt machine.registers.pc = .ok instruction ∧
        machine.Refuses instruction fault := by
  cases faults with
  | outOfMemory outside =>
    refine .inl (instructionAt_eq_error_iff.mpr (.inl ⟨by omega, ?_⟩))
    rw [Nat.max_eq_left outside]
  | acrossEnd last =>
    refine .inl (instructionAt_eq_error_iff.mpr (.inl ⟨by omega, ?_⟩))
    rw [Nat.max_eq_right (by omega)]
  | unknown read none =>
    exact .inl (instructionAt_eq_error_iff.mpr (.inr ⟨_, read, none, rfl⟩))
  | underflow fetched empty => exact .inr ⟨_, fetched, .underflow empty⟩
  | overflow fetched full => exact .inr ⟨_, fetched, .overflow (Nat.le_of_eq full.symm)⟩
  | outside fetched spanned beyond => exact .inr ⟨_, fetched, .outside spanned beyond⟩

/-- No access inside memory is a fault. -/
theorem Faults.memorySize_le {address : Nat}
    (faults : machine.Faults (.invalidMemoryAccess address)) : memorySize ≤ address := by
  cases faults with
  | outOfMemory outside => exact outside
  | acrossEnd => exact Nat.le_refl _
  | outside _ _ beyond => omega

private theorem faulted_of_unfetched
    (missing : machine.instructionAt machine.registers.pc = .error fault) :
    machine.faulted fault = { machine with status.running := false, fault := some fault } := by
  simp only [faulted, isDrawing, missing, Bool.false_eq_true, if_false]

private theorem faulted_of_fetched {instruction : Instruction}
    (fetched : machine.instructionAt machine.registers.pc = .ok instruction) :
    machine.faulted fault =
      { machine.refused instruction with status.running := false, fault := some fault } := by
  simp only [faulted, isDrawing, fetched]
  cases instruction <;> rfl

/-- There is never more than one reason. -/
theorem Faults.unique {other : Fault} (faults : machine.Faults fault)
    (others : machine.Faults other) : fault = other := by
  rcases faults.cases_fetch with missing | ⟨instruction, fetched, refuses⟩ <;>
    rcases others.cases_fetch with missing' | ⟨instruction', fetched', refuses'⟩
  · rw [missing] at missing'
    cases missing'
    rfl
  · rw [missing] at fetched'
    contradiction
  · rw [fetched] at missing'
    contradiction
  · rw [fetched] at fetched'
    cases fetched'
    have outcome := execute_of_refuses refuses Silent.silent
    rw [execute_of_refuses refuses'] at outcome
    cases outcome
    rfl

private theorem step_of_faults [Host η] (active : machine.mode = .running)
    (faults : machine.Faults fault) (host : η) :
    machine.step host = (machine.faulted fault, Host.reportFault host fault) := by
  rcases faults.cases_fetch with missing | ⟨instruction, fetched, refuses⟩
  · rw [step_of_unfetched active missing, halt, faulted_of_unfetched missing]
  · rw [step_of_refuses active fetched refuses, halt, faulted_of_fetched fetched]

private theorem step_of_not_faults [Host η] (depth : machine.registers.sp.toNat ≤ stackDepth)
    (sound : machine.mode = .running → ∀ fault, ¬machine.Faults fault) (host : Recorded η) :
    ∃ made, (machine.step host).2.calls.toList = host.calls.toList ++ made ∧
      made.filterMap Call.fault? = [] ∧ (machine.step host).1.fault = machine.fault ∧
      (machine.step host).1.isRunning = machine.isRunning := by
  have stepped := machine.step_stepped host
  generalize machine.step host = result at stepped ⊢
  cases stepped with
  | waited => exact ⟨[], (List.append_nil _).symm, rfl, rfl, rfl⟩
  | resumed => exact ⟨[], (List.append_nil _).symm, rfl, rfl, rfl⟩
  | unfetched active missing => exact absurd (.of_unfetched missing) (sound active _)
  | refused active fetched refuses =>
    exact absurd (.of_refuses depth fetched refuses) (sound active _)
  | @completed instruction flow active fetched done =>
    obtain ⟨made, calls, drawn⟩ := execute_draws done
    exact ⟨made, calls, drawn.silent, machine.follow_execute host instruction _ flow⟩

/-- A processor step reports a fault exactly for its reason. Then the report is all that the host is
told, and nothing else of the machine has changed. -/
theorem step_faults [Host η] (host : Recorded η)
    (depth : machine.registers.sp.toNat ≤ stackDepth) :
    ∃ made, (machine.step host).2.calls.toList = host.calls.toList ++ made ∧
      (∀ fault, .fault fault ∈ made ↔ machine.mode = .running ∧ machine.Faults fault) ∧
      (∀ fault, .fault fault ∈ made → made = [.fault fault] ∧
        machine.step host =
          (machine.faulted fault,
            host.note (Host.reportFault host.host fault) (.fault fault))) ∧
      ((∀ fault, .fault fault ∉ made) →
        (machine.step host).1.fault = machine.fault ∧
          (machine.step host).1.isRunning = machine.isRunning) ∧
      ∀ address, machine.Faults (.invalidMemoryAccess address) → memorySize ≤ address := by
  by_cases troubled : ∃ fault, machine.mode = .running ∧ machine.Faults fault
  · obtain ⟨fault, active, faults⟩ := troubled
    have stepped := step_of_faults active faults host
    have only (other : Fault) : .fault other ∈ [Call.fault fault] ↔ other = fault := by
      simp only [List.mem_singleton, Call.fault.injEq]
    refine ⟨[.fault fault], ?_, ?_, ?_, ?_, fun _ => Faults.memorySize_le⟩
    · rw [stepped]
      exact Recorded.toList_calls_note ..
    · intro other
      rw [only]
      exact ⟨fun same => same ▸ ⟨active, faults⟩, fun reason => reason.2.unique faults⟩
    · intro other told
      cases (only other).mp told
      exact ⟨rfl, stepped⟩
    · exact fun untold => absurd ((only fault).mpr rfl) (untold fault)
  · have sound (active : machine.mode = .running) (fault : Fault) : ¬machine.Faults fault :=
      fun faults => troubled ⟨fault, active, faults⟩
    obtain ⟨made, calls, silent, kept⟩ := step_of_not_faults depth sound host
    have untold (fault : Fault) : .fault fault ∉ made := by
      intro told
      have := List.filterMap_eq_nil_iff.mp silent _ told
      contradiction
    refine ⟨made, calls, ?_, ?_, fun _ => kept, fun _ => Faults.memorySize_le⟩
    · intro fault
      exact ⟨fun told => absurd told (untold fault), fun reason => absurd ⟨fault, reason⟩ troubled⟩
    · exact fun fault told => absurd told (untold fault)

/-- A machine whose memory holds nothing but calls, with a full call stack. -/
def outOfStack : Machine where
  registers := { Registers.initial with sp := 16 }
  memory := ⟨Vector.replicate memorySize 0x2E⟩
  timers := {}
  keypad := .released
  status := { running := true }
  dialect := {}
  mode := .running
  cycles := 0
  fault := none
  random := .zeros

theorem step_faults_outOfStack :
    outOfStack.registers.sp.toNat ≤ stackDepth ∧
      (outOfStack.step (⟨.silent, #[]⟩ : Recorded Silent)).2.calls.toList =
        [.fault .stackOverflow] := by
  have depth : outOfStack.registers.sp.toNat ≤ stackDepth := by decide
  have read : outOfStack.memory.readWord outOfStack.registers.pc = .ok 0x2E2E := by
    simp only [Memory.readWord, Memory.read, Memory.get?, outOfStack, Vector.getElem?_replicate]
    rfl
  have decoded : Instruction.decode? 0x2E2E = some (.call 0xE2E) := by decide
  have fetched : outOfStack.instructionAt outOfStack.registers.pc = .ok (.call 0xE2E) := by
    simp only [instructionAt, read, decoded]
  obtain ⟨made, calls, reasons, reports, -⟩ := step_faults (⟨.silent, #[]⟩ : Recorded Silent) depth
  have told := (reasons .stackOverflow).mpr ⟨rfl, .overflow fetched rfl⟩
  obtain ⟨rfl, -⟩ := reports _ told
  exact ⟨depth, calls⟩

end Chip8.Machine
