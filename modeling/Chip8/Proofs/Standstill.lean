import Chip8.Proofs.Footprint
import Chip8.Proofs.Operation
import Chip8.Proofs.Stepping

/-! # Programs that stand still

A free run stops when its program seems to be stuck: it waits for a key, or an instruction has led
back to itself. A wait goes on as long as no key is pressed, and a jump to itself is made again and
again. A call of its own address and a return to itself also lead back to where they stand, but each
time with another call stack, until that is full or empty. `stuck_iff_unlinked` says that only these
programs seem to be stuck and are not; `stuck_but_calling` shows a call.
-/

namespace Chip8

universe u

variable {η : Type u}

namespace Machine

/-- A machine that processor steps leave where it is: it waits for a key with none down, or stands
before a jump to the address of that jump. -/
inductive Parked (machine : Machine) : Prop
  | waiting {x : VIndex} (waits : machine.mode = .waitingForKey x)
      (up : machine.keypad.first? = none)
  | jumping {instruction : Instruction} (active : machine.mode = .running)
      (fetched : machine.instructionAt machine.registers.pc = .ok instruction)
      (unlinked : ¬instruction.Links)
      (back : machine.target? instruction = some machine.registers.pc)

/-- The machine is where it was as far as its program is concerned, and has not halted with a
fault. -/
structure Unmoved (machine after : Machine) : Prop where
  general : ∀ x, after.registers.get x = machine.registers.get x
  index : after.registers.i = machine.registers.i
  counter : after.registers.pc = machine.registers.pc
  stack : after.registers.callStack = machine.registers.callStack
  memory : after.memory = machine.memory
  mode : after.mode = machine.mode
  sound : after.fault = none

variable {machine : Machine} {instruction : Instruction}

/-- Neither the timers nor what is counted or noted for the host takes a machine off its place. -/
theorem Parked.congr (parked : machine.Parked) (cycles : Nat) (timers : Timers) (status : Status) :
    { machine with cycles, timers, status }.Parked := by
  cases parked with
  | waiting waits up => exact .waiting waits up
  | jumping active fetched unlinked back => exact .jumping active fetched unlinked back

/-- A jump that keeps no return address does nothing else. -/
theorem execute_of_target [Host η] {target : Address} (unlinked : ¬instruction.Links)
    (leads : machine.target? instruction = some target) (host : η) :
    machine.execute host instruction = ⟨machine, host, .ok (.jump target)⟩ := by
  cases instruction with
  | jump | jumpOffset =>
    cases leads
    rfl
  | call | ret => exact absurd trivial unlinked
  | _ => contradiction

/-- A processor step at a standstill counts an instruction, at most. -/
theorem Parked.step [Host η] (parked : machine.Parked) (host : η) :
    ∃ cycles, machine.step host = ({ machine with cycles }, host) := by
  cases parked with
  | waiting waits up => exact ⟨machine.cycles, step_of_waited waits up host⟩
  | jumping active fetched unlinked back =>
    have executed := execute_of_target unlinked back host
    refine ⟨machine.cycles + 1, ?_⟩
    rw [step_of_done active fetched (congrArg Effect.outcome executed), executed]
    rfl

/-- Every standstill seems to be stuck. -/
theorem Parked.stuck (parked : machine.Parked) (cycles : Nat) :
    Debugger.isStuck { machine with cycles } machine.registers.pc = true := by
  cases parked with
  | waiting waits up => simp only [Debugger.isStuck, waits, up, Option.isNone_none]
  | jumping active => simp only [Debugger.isStuck, active, BEq.rfl]

/-- A call or a return that is completed changes the call stack. -/
theorem callStack_of_links [Host η] {host : η} {flow : Flow} (links : instruction.Links)
    (depth : machine.registers.sp.toNat ≤ stackDepth)
    (done : (machine.execute host instruction).outcome = .ok flow) :
    ((machine.execute host instruction).machine.follow machine.registers.pc
      flow).registers.callStack ≠ machine.registers.callStack := by
  cases instruction with
  | ret =>
    simp only [execute] at done ⊢
    split at done
    · contradiction
    · next address popped found =>
      cases done
      have taken := Registers.callStack_of_pop? depth found
      simp only [follow, withRegisters]
      change popped.callStack ≠ _
      rw [taken]
      simp
  | call target =>
    simp only [execute] at done ⊢
    split at done
    · contradiction
    · next pushed found =>
      cases done
      have added := Registers.callStack_of_push? found
      simp only [follow, withRegisters]
      change pushed.callStack ≠ _
      rw [added]
      simp
  | _ => exact absurd links id

private theorem memory_of_links [Host η] (links : instruction.Links) (host : η) :
    (machine.execute host instruction).machine.memory = machine.memory := by
  cases instruction with
  | ret | call =>
    simp only [execute]
    split <;> rfl
  | _ => exact absurd links id

/-- Where a call or a return is executed again, the machine does not stay. -/
theorem not_unmoved_of_links [Host η] (links : instruction.Links)
    (depth : machine.registers.sp.toNat ≤ stackDepth) (active : machine.mode = .running)
    (fetched : machine.instructionAt machine.registers.pc = .ok instruction) (host : η) :
    ¬machine.Unmoved (machine.step host).1 := by
  intro unmoved
  cases done : (machine.execute host instruction).outcome with
  | error fault =>
    have halted := unmoved.sound
    simp only [step, attempt, active, fetched, done, halt, reduceCtorEq] at halted
  | ok flow =>
    have kept := unmoved.stack
    rw [step_of_done active fetched done] at kept
    exact callStack_of_links links depth done kept

/-- Only a jump can lead back to itself. -/
theorem target?_of_successor (back : machine.successor instruction = machine.registers.pc) :
    machine.target? instruction = some machine.registers.pc := by
  unfold successor at back
  split at back
  · next leads => rw [leads, back]
  · split at back
    · exact absurd back (by simp)
    · exact absurd back (by simp)

/-- What seems to be stuck behind a processor step stands still, or is before the call or return
again that was executed. -/
theorem cases_of_stuck [Host η] {host : η} (sound : (machine.step host).1.fault = none)
    (stuck : Debugger.isStuck (machine.step host).1 machine.registers.pc = true) :
    ((machine.step host).1.Parked ∧
        ∀ instruction, machine.current? = some instruction → ¬instruction.Links) ∨
      ∃ instruction, instruction.Links ∧ machine.current? = some instruction ∧
        (machine.step host).1.mode = .running ∧
        (machine.step host).1.instructionAt (machine.step host).1.registers.pc =
          .ok instruction := by
  have stepped := machine.step_stepped host
  generalize machine.step host = result at stepped sound stuck ⊢
  cases stepped with
  | @waited x waits up =>
    refine .inl ⟨.waiting waits up, fun instruction current => ?_⟩
    simp only [current?, waits, Option.some.injEq] at current
    subst current
    exact id
  | resumed waits down =>
    simp only [Debugger.isStuck, resume, beq_iff_eq] at stuck
    exact absurd stuck (by simp)
  | unfetched | refused => contradiction
  | @completed instruction flow active fetched done =>
    have current := current?_of_fetched active fetched
    rcases follow_of_done done (machine.execute host instruction).machine with
      ⟨x, rfl, up, rfl⟩ | ⟨-, moved⟩
    · have stayed : (machine.execute host (.waitKey x)).machine = machine := by
        simp only [execute, up]
      rw [stayed]
      refine .inl ⟨.waiting rfl up, fun other same => ?_⟩
      cases current.symm.trans same
      exact id
    · have running : (machine.execute host instruction).machine.mode = .running :=
        (machine.execute_untouched host instruction).mode.trans active
      rw [moved] at stuck ⊢
      simp only [Debugger.isStuck, running, beq_iff_eq] at stuck
      rw [stuck]
      by_cases links : instruction.Links
      · refine .inr ⟨instruction, links, current, running, ?_⟩
        rw [instructionAt, memory_of_links links]
        exact fetched
      · have back := target?_of_successor stuck
        rw [execute_of_target links back]
        refine .inl ⟨.jumping active fetched links back, fun other same => ?_⟩
        cases current.symm.trans same
        exact links

end Machine

namespace Console

private theorem step_eq [Host η] {console : Console η} {machine : Machine} {host : η}
    (running : console.isRunning = true)
    (stepped : console.machine.step console.host = (machine, host)) :
    console.step = { console with machine, host } := by
  rw [step, whenRunning_of_running running, act, stepped]

private theorem machine_step [Host η] {console : Console η} (running : console.isRunning = true) :
    console.step.machine = (console.machine.step console.host).1 :=
  congrArg Console.machine (step_eq running rfl)

/-- Steps and timer cycles at a standstill change nothing but what is counted, the timers, and what
is noted for the host. -/
theorem run_of_parked [Host η] {console : Console η} {machine : Machine}
    (parked : machine.Parked) {operations : List Operation}
    (only : ∀ operation ∈ operations, operation = .step ∨ operation = .tickTimers)
    (here : ∃ cycles timers status, console.machine = { machine with cycles, timers, status }) :
    ∃ cycles timers status,
      (console.run operations).machine = { machine with cycles, timers, status } := by
  induction operations generalizing console with
  | nil => exact here
  | cons operation rest ih =>
    refine ih (fun other member => only other (List.mem_cons_of_mem _ member)) ?_
    obtain ⟨cycles, timers, status, here⟩ := here
    have still := parked.congr cycles timers status
    rw [← here] at still
    obtain rfl | rfl := only operation List.mem_cons_self
    · obtain ⟨counted, stepped⟩ := still.step console.host
      simp only [perform, step, whenRunning, act, stepped]
      split
      · exact ⟨counted, timers, status, by rw [here]⟩
      · exact ⟨cycles, timers, status, here⟩
    · simp only [perform, tickTimers, whenRunning, act]
      split
      · exact ⟨cycles, _, _, by rw [Machine.tickTimers_machine, here]⟩
      · exact ⟨cycles, timers, status, here⟩

end Console

namespace Debugger

/-- A program that seems to be stuck behind a step, in any session, stays where it is whatever steps
and timer cycles follow, exactly if the step was no call and no return. -/
theorem stuck_iff_unlinked (console : Console Terminal) (program : List UInt8) (dialect : Dialect)
    (budget : Nat) (lines : List String) {session : Session}
    (reached : (Transcript.ofInput budget (console.load program dialect) lines).session = session)
    (running : session.console.isRunning = true) (sound : session.console.step.fault? = none)
    (stuck : isStuck session.console.step.machine session.machine.registers.pc = true) :
    (∀ operations : List Operation,
        (∀ operation ∈ operations, operation = .step ∨ operation = .tickTimers) →
        session.console.step.machine.Unmoved (session.console.step.run operations).machine) ↔
      ∀ instruction, session.machine.current? = some instruction → ¬instruction.Links := by
  have debugged : session.machine.Debugged dialect := by
    rw [← reached]
    exact (persists_debugged dialect).transcript budget
      (Console.debugged_load console program dialect) lines
  have stepped : session.console.step.machine.Debugged dialect :=
    (persists_debugged dialect).step debugged
  have left := Console.machine_step running
  have silent : (session.console.machine.step session.console.host).1.fault = none :=
    (congrArg Machine.fault left).symm.trans sound
  rw [left] at stuck
  rcases Machine.cases_of_stuck silent stuck with
    ⟨parked, unlinked⟩ | ⟨instruction, links, current, active, fetched⟩
  · rw [← left] at parked
    refine ⟨fun _ => unlinked, fun _ operations only => ?_⟩
    obtain ⟨cycles, timers, status, still⟩ :=
      Console.run_of_parked parked only ⟨_, _, _, rfl⟩
    rw [still]
    exact ⟨fun _ => rfl, rfl, rfl, rfl, rfl, rfl, sound⟩
  · rw [← left] at active fetched
    refine ⟨fun stays => ?_, fun unlinked => absurd links (unlinked instruction current)⟩
    have goesOn : session.console.step.isRunning = true :=
      (Console.isRunning_step sound).trans running
    have again := stays [.step] fun operation member => .inl (List.mem_singleton.mp member)
    rw [Console.run_cons, Console.run_nil, Console.perform, Console.machine_step goesOn] at again
    exact absurd again
      (Machine.not_unmoved_of_links links stepped.depth active fetched _)

private theorem load_new {program : List UInt8} (fits : program.length ≤ 3584) :
    Console.load (.new ({} : Terminal) .zeros) program {} =
      ⟨.fresh program {} .zeros, .initial, {}⟩ := by
  simp only [Console.load, Console.act, Machine.load_eq, fits, if_true]
  rfl

/-- An indirect jump to itself, with timer cycles between its repetitions. -/
theorem stuck_iff_unlinked_jumpOffset :
    let session : Session := { console := .load (.new {} .zeros) [0xb2, 0x00] {} }
    session.console.isRunning = true ∧ session.console.step.fault? = none ∧
      isStuck session.console.step.machine session.machine.registers.pc = true ∧
      session.machine.current? = some (.jumpOffset 0x200) ∧
      session.console.step.machine.Unmoved
        (session.console.step.run [.step, .tickTimers, .step, .step]).machine := by
  intro session
  have loaded := load_new (show [0xb2, 0x00].length ≤ 3584 by decide)
  have fetched : session.machine.instructionAt 0x200 = .ok (.jumpOffset 0x200) := by
    simp only [session, Session.machine, loaded]
    exact Machine.instructionAt_of_holding rfl (by decide) (by decide)
  have parked : session.machine.Parked := by
    simp only [session, Session.machine, loaded] at fetched ⊢
    exact .jumping rfl fetched id rfl
  have running : session.console.isRunning = true := by
    simp only [session, loaded]
    rfl
  obtain ⟨cycles, stepped⟩ := parked.step session.console.host
  have left : session.console.step.machine = { session.machine with cycles } := by
    rw [Console.machine_step running]
    exact congrArg Prod.fst stepped
  have sound : session.console.step.fault? = none := by
    rw [Console.fault?, left]
    simp only [session, Session.machine, loaded]
    rfl
  have stuck : isStuck session.console.step.machine session.machine.registers.pc = true := by
    rw [left]
    exact parked.stuck cycles
  have current : session.machine.current? = some (.jumpOffset 0x200) := by
    simp only [session, Session.machine, loaded] at fetched ⊢
    exact Machine.current?_of_fetched rfl fetched
  have stays := stuck_iff_unlinked (.new {} .zeros) [0xb2, 0x00] {} 0 [] rfl running sound stuck
  refine ⟨running, sound, stuck, current, stays.mpr (fun instruction same => ?_) _ (by decide)⟩
  cases current.symm.trans same
  exact id

/-- A call of its own address seems to be stuck, but its return addresses fill the call stack. -/
theorem stuck_but_calling :
    let session : Session := { console := .load (.new {} .zeros) [0x22, 0x00] {} }
    session.console.isRunning = true ∧ session.console.step.fault? = none ∧
      isStuck session.console.step.machine session.machine.registers.pc = true ∧
      session.console.step.machine.registers.callStack = [0x202] ∧
      session.console.step.step.machine.registers.callStack = [0x202, 0x202] := by
  let called (machine : Machine) : Machine :=
    (machine.execute ({} : Terminal) (.call 0x200)).machine.follow 0x200 (.jump 0x200)
  let first := Machine.fresh [0x22, 0x00] {} .zeros
  have fetched (machine : Machine) (same : machine.memory = first.memory) :
      machine.instructionAt 0x200 = .ok (.call 0x200) :=
    Machine.instructionAt_of_holding same (by decide) (by decide)
  have once : first.step ({} : Terminal) = (called first, {}) :=
    Machine.step_of_done rfl (fetched first rfl) rfl
  have twice : (called first).step ({} : Terminal) = (called (called first), {}) :=
    Machine.step_of_done rfl (fetched (called first) rfl) rfl
  intro session
  simp only [session, Session.machine, load_new (show [0x22, 0x00].length ≤ 3584 by decide)]
  rw [Console.step_eq rfl once, Console.step_eq rfl twice]
  exact ⟨rfl, rfl, rfl, rfl, rfl⟩

end Debugger

end Chip8
