import Chip8.Proofs.Operation
import Chip8.Proofs.Transition

/-! # Bounds that hold while a console drives the machine

The program counter, the index and the call stack have more room in their words than memory has
bytes. `InBounds` says how far they get when nobody but the console changes the machine. The bounds
depend on one another: a return is only as good as the address on the stack, that address is only
as good as the counter of the call, and a wait for a key rests on the instruction that started it
being still there. `run_inBounds` is the result for every run.
-/

namespace Chip8

universe u

variable {η : Type u}

/-- The stack has no more slots in use than it has, its addresses lie behind an instruction, and the
index points into memory or right behind it. -/
structure Registers.InBounds (registers : Registers) : Prop where
  depth : registers.sp.toNat ≤ stackDepth
  index : registers.i.toNat ≤ memorySize
  returns : ∀ address ∈ registers.callStack, 2 ≤ address.toNat ∧ address.toNat ≤ memorySize

/-- The farthest place to which an indirect jump can lead. -/
abbrev farthest : Nat := 0x10FE

/-- What holds of a machine that only a console has driven. -/
structure Machine.InBounds (machine : Machine) : Prop where
  registers : machine.registers.InBounds
  counter : machine.registers.pc.toNat ≤ farthest
  waiting : ∀ x, machine.mode = .waitingForKey x →
    machine.registers.pc.toNat ≤ 0x0FFE ∧
      machine.instructionAt machine.registers.pc = .ok (.waitKey x)
  halted : machine.fault.isSome = true → machine.isRunning = false

/-- An address in memory has room for the length of two instructions behind it. -/
theorem toNat_add_of_fetched {address distance : Address}
    (fetched : address.toNat + 1 < memorySize) (short : distance.toNat ≤ 4) :
    (address + distance).toNat = address.toNat + distance.toNat := by
  simp only [memorySize] at fetched
  rw [UInt16.toNat_add]
  omega

namespace Registers.InBounds

variable {registers after : Registers}

private theorem initial : Registers.initial.InBounds where
  depth := by decide
  index := by decide
  returns := by simp [callStack, Registers.initial]

/-- Only the stack and the index matter. -/
theorem congr (bounds : registers.InBounds) (stack : after.stack = registers.stack)
    (sp : after.sp = registers.sp) (index : after.i.toNat ≤ memorySize) : after.InBounds where
  depth := sp ▸ bounds.depth
  index := index
  returns := by
    simp only [callStack, stack, sp]
    exact bounds.returns

private theorem push (bounds : registers.InBounds) {address : Address}
    (low : 2 ≤ address.toNat) (high : address.toNat ≤ memorySize)
    (done : registers.push? address = some after) : after.InBounds := by
  obtain ⟨same, next, free⟩ := eq_of_push? done
  refine ⟨by omega, ?_, ?_⟩
  · rw [same]
    exact bounds.index
  · rw [callStack_of_push? done]
    intro other member
    rcases List.mem_append.mp member with old | new
    · exact bounds.returns other old
    · rw [List.mem_singleton.mp new]
      exact ⟨low, high⟩

private theorem pop (bounds : registers.InBounds) {address : Address}
    (done : registers.pop? = some (address, after)) :
    after.InBounds ∧ address.toNat ≤ memorySize := by
  obtain ⟨same, next, -⟩ := eq_of_pop? done
  have stack := callStack_of_pop? bounds.depth done
  have returns := bounds.returns
  rw [stack] at returns
  refine ⟨⟨by have := bounds.depth; omega, ?_, ?_⟩, ?_⟩
  · rw [same]
    exact bounds.index
  · exact fun other member => returns other (List.mem_append_left _ member)
  · exact (returns address (List.mem_append_right _ (List.mem_singleton_self _))).2

end Registers.InBounds

namespace Machine

/-- What can be fetched lies in memory with both its bytes. -/
theorem lt_of_fetched {machine : Machine} {address : Address} {instruction : Instruction}
    (fetched : machine.instructionAt address = .ok instruction) :
    address.toNat + 1 < memorySize := by
  refine Nat.lt_of_not_le fun outside => ?_
  simp only [instructionAt, Memory.readWord_eq_error_iff.mpr ⟨outside, rfl⟩] at fetched
  contradiction

/-- A block that was read or written leaves the index in memory or right behind it. -/
theorem advanceIndex_le (machine : Machine) (x : VIndex)
    (within : machine.registers.i.toNat + (x.val + 1) ≤ memorySize) :
    (machine.advanceIndex x).registers.i.toNat ≤ memorySize := by
  have small := x.isLt
  simp only [memorySize] at within
  simp only [advanceIndex_eq, withRegisters, memorySize]
  split
  · rw [UInt16.toNat_add, UInt16.toNat_ofNat']
    omega
  · omega

private theorem setBitwise_inBounds {machine : Machine} (bounds : machine.registers.InBounds)
    (x : VIndex) (value : UInt8) : (machine.setBitwise x value).registers.InBounds := by
  simp only [setBitwise, withRegisters]
  split <;> exact bounds.congr rfl rfl bounds.index

private theorem execute_registers_inBounds [Host η] {machine : Machine}
    (bounds : machine.registers.InBounds)
    (fetched : machine.registers.pc.toNat + 1 < memorySize) (host : η)
    (instruction : Instruction) :
    (machine.execute host instruction).machine.registers.InBounds := by
  have index := bounds.index
  cases instruction
  case ret =>
    simp only [execute]
    split
    · exact bounds
    · next popped => exact (bounds.pop popped).1
  case call target =>
    simp only [execute]
    have next : (machine.registers.pc + 2).toNat = machine.registers.pc.toNat + 2 :=
      toNat_add_of_fetched fetched (by decide)
    split
    · exact bounds
    · next pushed => exact bounds.push (by omega) (by omega) pushed
  case draw x y rows =>
    cases read : machine.memory.readRange machine.registers.i.toNat rows.val with
    | error refusal =>
      simp only [execute, drawSprite_of_error read]
      exact bounds.congr rfl rfl index
    | ok sprite =>
      simp only [execute, drawSprite_of_read read rfl]
      exact bounds.congr rfl rfl index
  case setIndex target =>
    refine bounds.congr rfl rfl ?_
    have := target.isLt
    simp only [execute, withRegisters, UInt16.toNat_ofNat', memorySize]
    omega
  case addIndex x =>
    refine bounds.congr rfl rfl ?_
    simp only [execute, withRegisters, Registers.setFlag_i, UInt16.toNat_ofNat', memorySize]
    omega
  case smallGlyph x =>
    refine bounds.congr rfl rfl ?_
    simp only [execute, withRegisters, UInt16.toNat_ofNat', memorySize, fontStart, fontGlyphSize]
    rw [Nat.mod_eq_of_lt (by omega)]
    omega
  case largeGlyph x =>
    refine bounds.congr rfl rfl ?_
    simp only [execute, withRegisters, UInt16.toNat_ofNat', memorySize, bigFontStart,
      bigFontGlyphSize]
    rw [Nat.mod_eq_of_lt (by omega)]
    omega
  case decimal x =>
    simp only [execute, writeAtIndex]
    split <;> exact bounds
  case store x =>
    simp only [execute, writeAtIndex]
    split
    · exact bounds
    · next memory written =>
      have within := Memory.within_of_writeRange written
      rw [Registers.length_block] at within
      exact bounds.congr (by simp only [advanceIndex_eq, withRegisters])
        (by simp only [advanceIndex_eq, withRegisters]) (advanceIndex_le _ x within)
  case load x =>
    simp only [execute]
    split
    · exact bounds
    · next bytes read =>
      have within := Memory.within_of_readRange read
      have bounded := (machine.withRegisters (machine.registers.setBlock bytes)).advanceIndex_le x
        (by simpa only [withRegisters, Registers.setBlock_i] using within)
      exact bounds.congr (by simp only [advanceIndex_eq, withRegisters, Registers.setBlock_stack])
        (by simp only [advanceIndex_eq, withRegisters, Registers.setBlock_sp]) bounded
  case waitKey x =>
    simp only [execute]
    split
    · exact bounds.congr rfl rfl index
    · exact bounds
  case bitOr x y => exact setBitwise_inBounds bounds x _
  case bitAnd x y => exact setBitwise_inBounds bounds x _
  case bitXor x y => exact setBitwise_inBounds bounds x _
  all_goals exact bounds.congr rfl rfl index

/-- No jump leads farther than an indirect one. -/
theorem Leads.le_farthest {machine : Machine} {instruction : Instruction} {target : Address}
    (leads : machine.Leads instruction (.jump target)) (bounds : machine.registers.InBounds) :
    target.toNat ≤ farthest := by
  cases leads with
  | returned popped =>
    have := (bounds.pop popped).2
    simp only [memorySize, farthest] at this ⊢
    omega
  | jumped target =>
    have := target.isLt
    simp only [UInt16.toNat_ofNat', farthest]
    omega
  | called target =>
    have := target.isLt
    simp only [UInt16.toNat_ofNat', farthest]
    omega
  | offset target =>
    have := target.isLt
    have := (machine.registers.get Registers.offsetIndex).toNat_lt
    simp only [UInt16.toNat_ofNat', farthest]
    omega

namespace InBounds

variable {machine after : Machine}

/-- Timers, keys, random bytes and the other status bits do not matter. -/
theorem congr (bounds : machine.InBounds) (registers : after.registers = machine.registers)
    (memory : after.memory = machine.memory) (mode : after.mode = machine.mode)
    (halted : after.fault.isSome = true → after.isRunning = false) : after.InBounds where
  registers := registers ▸ bounds.registers
  counter := registers ▸ bounds.counter
  waiting := by
    simp only [instructionAt, registers, memory, mode]
    exact bounds.waiting
  halted := halted

/-- A machine that runs has had no fault. -/
theorem untroubled (bounds : machine.InBounds) (running : machine.isRunning = true) :
    machine.fault = none := by
  cases stored : machine.fault with
  | none => rfl
  | some fault =>
    have stopped := bounds.halted (by rw [stored]; rfl)
    rw [running] at stopped
    contradiction

/-- A machine that is not at a wait is active. -/
theorem active_of_fetched (bounds : machine.InBounds) {instruction : Instruction}
    (fetched : machine.instructionAt machine.registers.pc = .ok instruction)
    (other : ∀ x, instruction ≠ .waitKey x) : machine.mode = .running := by
  cases mode : machine.mode with
  | running => rfl
  | waitingForKey x =>
    have asked := (bounds.waiting x mode).2
    rw [fetched] at asked
    cases asked
    exact absurd rfl (other x)

private theorem halt [Host η] (bounds : machine.InBounds) (host : η) (fault : Fault) :
    (machine.halt host fault).1.InBounds :=
  bounds.congr rfl rfl rfl fun _ => rfl

/-- An active processor has no wait to account for. -/
theorem of_active (active : after.mode = .running) (registers : after.registers.InBounds)
    (counter : after.registers.pc.toNat ≤ farthest)
    (halted : after.fault.isSome = true → after.isRunning = false) : after.InBounds where
  registers := registers
  counter := counter
  waiting := by
    intro x waiting
    rw [active] at waiting
    contradiction
  halted := halted

private theorem refused (bounds : machine.InBounds) (instruction : Instruction) :
    (machine.refused instruction).InBounds := by
  cases instruction
  case draw x y rows =>
    exact {
      registers := bounds.registers.congr rfl rfl bounds.registers.index
      counter := bounds.counter
      waiting := bounds.waiting
      halted := bounds.halted }
  all_goals exact bounds

private theorem follow [Host η] (bounds : machine.InBounds) (active : machine.mode = .running)
    {instruction : Instruction}
    (fetched : machine.instructionAt machine.registers.pc = .ok instruction) (host : η)
    {flow : Flow} (done : (machine.execute host instruction).outcome = .ok flow) :
    ((machine.execute host instruction).machine.follow machine.registers.pc flow).InBounds := by
  have inside := lt_of_fetched fetched
  have registers := execute_registers_inBounds bounds.registers inside host instruction
  have untouched := machine.execute_untouched host instruction
  have mode := untouched.mode.trans active
  have halted : (machine.execute host instruction).machine.fault.isSome = true →
      (machine.execute host instruction).machine.isRunning = false := by
    rw [untouched.fault, isRunning, untouched.status]
    exact bounds.halted
  have leads := execute_leads done
  cases flow with
  | next =>
    refine of_active mode (registers.congr rfl rfl registers.index) ?_ halted
    have next : (machine.registers.pc + 2).toNat = machine.registers.pc.toNat + 2 :=
      toNat_add_of_fetched inside (by decide)
    simp only [Machine.follow, next, farthest, memorySize] at inside ⊢
    omega
  | skip =>
    refine of_active mode (registers.congr rfl rfl registers.index) ?_ halted
    have next : (machine.registers.pc + 4).toNat = machine.registers.pc.toNat + 4 :=
      toNat_add_of_fetched inside (by decide)
    simp only [Machine.follow, next, farthest, memorySize] at inside ⊢
    omega
  | jump target =>
    exact of_active mode (registers.congr rfl rfl registers.index)
      (leads.le_farthest bounds.registers) halted
  | waitForKey x =>
    cases leads with
    | waits up =>
      -- Nothing moves, so the wait rests on the instruction that was just fetched.
      have stayed : (machine.execute host (.waitKey x)).machine = machine := by
        simp only [execute, up]
      rw [stayed]
      exact {
        registers := bounds.registers
        counter := bounds.counter
        waiting := by
          intro y waiting
          cases waiting
          simp only [memorySize] at inside
          exact ⟨by simp only [Machine.follow]; omega, fetched⟩
        halted := bounds.halted }

theorem initial (random : RandomSource) : (Machine.initial random).InBounds :=
  of_active rfl .initial (show Registers.initial.pc.toNat ≤ farthest by decide) (fun _ => rfl)

theorem step [Host η] (bounds : machine.InBounds) (host : η) : (machine.step host).1.InBounds := by
  have stepped := machine.step_stepped host
  generalize machine.step host = result at stepped ⊢
  cases stepped with
  | waited => exact bounds
  | resumed waiting =>
    obtain ⟨near, fetched⟩ := bounds.waiting _ waiting
    refine of_active rfl (bounds.registers.congr rfl rfl bounds.registers.index) ?_ bounds.halted
    have next : (machine.registers.pc + 2).toNat = machine.registers.pc.toNat + 2 :=
      toNat_add_of_fetched (lt_of_fetched fetched) (by decide)
    simp only [resume, next, farthest]
    omega
  | unfetched => exact bounds.halt host _
  | refused => exact (bounds.refused _).halt host _
  | completed active fetched done =>
    exact bounds.follow active fetched host done

private theorem heed (bounds : machine.InBounds) (input : Input) :
    (machine.heed input).InBounds := by
  refine bounds.congr rfl rfl rfl ?_
  intro fault
  have stopped : machine.status.running = false := bounds.halted fault
  simp only [Machine.heed, isRunning, stopped, Bool.false_and]

private theorem press [Host η] (bounds : machine.InBounds) (host : η) (event : KeyEvent) :
    (machine.press host event).1.InBounds := by
  simp only [Machine.press]
  split
  · exact bounds.congr rfl rfl rfl bounds.halted
  · exact bounds.halt host _

theorem pollInput [Host η] (bounds : machine.InBounds) (host : η) :
    (machine.pollInput host).1.InBounds := by
  simp only [Machine.pollInput]
  split
  · exact (bounds.heed _).press _ _
  · exact bounds.heed _

theorem tickTimers [Host η] (bounds : machine.InBounds) (host : η) :
    (machine.tickTimers host).1.InBounds := by
  have sounded : (machine.tickSound host).1.InBounds := bounds.congr rfl rfl rfl bounds.halted
  simp only [Machine.tickTimers, flushClear]
  split
  · exact sounded.congr rfl rfl rfl sounded.halted
  · exact sounded

/-- A load starts over, whatever was there before. -/
theorem load [Host η] (machine : Machine) (host : η) (program : List UInt8) (dialect : Dialect) :
    (machine.load host program dialect).1.InBounds := by
  have start : (machine.reset dialect).InBounds :=
    (initial machine.random).congr rfl rfl rfl fun _ => rfl
  simp only [Machine.load]
  split
  · exact of_active rfl start.registers start.counter fun absurd => nomatch absurd
  · exact start.halt _ _

theorem invariant [Host η] : Invariant fun state : Machine × η => state.1.InBounds where
  poll _ bounds := bounds.pollInput _
  step _ bounds := bounds.step _
  cycle _ bounds := bounds.tickTimers _
  pause _ bounds := bounds.congr rfl rfl rfl bounds.halted
  stop bounds := bounds.congr rfl rfl rfl fun _ => rfl

end InBounds

end Machine

/-- A load brings a machine within its bounds, where the requests after it keep it. -/
theorem Console.run_load_inBounds [Host η] (console : Console η) (program : List UInt8)
    (dialect : Dialect) (operations : List Operation) :
    (console.run (.load program dialect :: operations)).machine.InBounds := by
  have loaded : (console.load program dialect).machine.InBounds :=
    Machine.InBounds.load console.machine console.host program dialect
  rw [run_cons]
  exact Machine.InBounds.invariant.run (fun program dialect _ _ _ _ => .load _ _ program dialect)
    loaded

/-- Whatever the program, the host, the random bytes and the requests, the machine of a console
stays within its bounds. -/
theorem Console.run_inBounds [Host η] (host : η) (random : RandomSource)
    (operations : List Operation) :
    ((Console.new host random).run operations).machine.InBounds :=
  Machine.InBounds.invariant.run (fun program dialect _ _ _ _ => .load _ _ program dialect)
    (.initial random)

end Chip8
