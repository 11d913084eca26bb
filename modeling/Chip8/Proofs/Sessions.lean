import Chip8.Proofs.Breakpoints
import Chip8.Proofs.Calls
import Chip8.Proofs.Dialects
import Chip8.Proofs.Footprint
import Chip8.Proofs.Loading
import Chip8.Proofs.Persistence
import Chip8.Proofs.Ticks

/-! # What holds throughout a session

A session may set the registers to anything that they can hold, so the bounds of a machine that only
runs are lost. `Debugged` says what is left of them: the stack pointer stays within the stack, the
machine runs unless it has halted with a fault, nothing holds it, and its dialect is that of the
load. `session_invariant` is the result for every session with a program that was loaded, together
with what its listings of breakpoints and of return addresses show.
-/

namespace Chip8

universe u

variable {η : Type u}

/-- What holds of a machine that is driven from a session. -/
structure Machine.Debugged (dialect : Dialect) (machine : Machine) : Prop where
  depth : machine.registers.sp.toNat ≤ stackDepth
  runs : machine.isRunning = true ↔ machine.fault = none
  unpaused : machine.isPaused = false
  dialect : machine.dialect = dialect

namespace Machine

/-- Calls and returns stay within the stack, whatever the other registers hold. -/
theorem execute_depth [Host η] {machine : Machine}
    (depth : machine.registers.sp.toNat ≤ stackDepth) (host : η) (instruction : Instruction) :
    (machine.execute host instruction).machine.registers.sp.toNat ≤ stackDepth := by
  by_cases links : instruction.Links
  · cases instruction
    case ret =>
      simp only [execute]
      split
      · exact depth
      · next popped =>
        have fewer := (Registers.eq_of_pop? popped).2.1
        simp only [withRegisters]
        omega
    case call target =>
      simp only [execute]
      split
      · exact depth
      · next pushed =>
        obtain ⟨-, more, free⟩ := Registers.eq_of_push? pushed
        simp only [withRegisters]
        omega
    all_goals exact absurd links id
  · rw [(machine.execute_spares host instruction).sp links]
    exact depth

private theorem follow_sp (machine : Machine) (address : Address) (flow : Flow) :
    (machine.follow address flow).registers.sp = machine.registers.sp := by
  cases flow <;> rfl

private theorem refused_sp (machine : Machine) (instruction : Instruction) :
    (machine.refused instruction).registers.sp = machine.registers.sp := by
  cases instruction <;> rfl

namespace Debugged

variable {dialect : Dialect} {machine after : Machine}

/-- Only the stack pointer, the fault and three parts of the status matter. -/
theorem congr (debugged : machine.Debugged dialect)
    (depth : after.registers.sp.toNat ≤ stackDepth) (running : after.isRunning = machine.isRunning)
    (fault : after.fault = machine.fault) (paused : after.isPaused = machine.isPaused)
    (same : after.dialect = machine.dialect) : after.Debugged dialect where
  depth := depth
  runs := by rw [running, fault]; exact debugged.runs
  unpaused := paused.trans debugged.unpaused
  dialect := same.trans debugged.dialect

private theorem step [Host η] (debugged : machine.Debugged dialect) (host : η) :
    (machine.step host).1.Debugged dialect := by
  have paused : (machine.step host).1.isPaused = false :=
    (machine.isPaused_step host).trans debugged.unpaused
  have kept : (machine.step host).1.dialect = dialect :=
    (machine.step_dialect host).trans debugged.dialect
  have stepped := machine.step_stepped host
  generalize machine.step host = result at stepped paused kept ⊢
  cases stepped with
  | waited => exact debugged
  | resumed => exact debugged.congr debugged.depth rfl rfl rfl rfl
  | unfetched => exact ⟨debugged.depth, ⟨nofun, nofun⟩, paused, kept⟩
  | refused =>
    refine ⟨?_, ⟨nofun, nofun⟩, paused, kept⟩
    exact (congrArg UInt8.toNat (refused_sp ..)).trans_le debugged.depth
  | @completed instruction flow active fetched done =>
    obtain ⟨fault, running⟩ :=
      machine.follow_execute host instruction machine.registers.pc flow
    refine ⟨?_, ?_, paused, kept⟩
    · rw [follow_sp]
      exact execute_depth debugged.depth host instruction
    · rw [running, fault]
      exact debugged.runs

private theorem tickTimers [Host η] (debugged : machine.Debugged dialect) (host : η) :
    (machine.tickTimers host).1.Debugged dialect := by
  rw [tickTimers_machine]
  exact debugged.congr debugged.depth rfl rfl rfl rfl

/-- A stack pointer is only set to what the stack can hold. -/
theorem setNamed (debugged : machine.Debugged dialect) {name : RegisterName} {value : Word}
    {registers : Registers} (done : machine.registers.setNamed name value = .ok registers) :
    (machine.withRegisters registers).Debugged dialect := by
  refine debugged.congr ?_ rfl rfl rfl rfl
  cases name with
  | v x =>
    simp only [Registers.setNamed] at done
    split at done
    · cases done
      exact debugged.depth
    · contradiction
  | i | pc =>
    cases done
    exact debugged.depth
  | sp =>
    simp only [Registers.setNamed] at done
    split at done
    · next fits =>
      cases done
      exact (Nat.mod_le ..).trans fits
    · contradiction

private theorem keypad (debugged : machine.Debugged dialect) (keypad : Keypad) :
    { machine with keypad }.Debugged dialect := debugged.congr debugged.depth rfl rfl rfl rfl

end Debugged

theorem debugged_fresh {program : List UInt8} {dialect : Dialect} {random : RandomSource}
    (fits : (fresh program dialect random).fault = none) :
    (fresh program dialect random).Debugged dialect := by
  have short : program.length ≤ 3584 := by
    by_contra long
    simp [fresh, long] at fits
  exact ⟨Nat.zero_le _, ⟨fun _ => fits, fun _ => decide_eq_true short⟩, rfl, rfl⟩

end Machine

namespace Debugger

/-- Nothing that a session does to a machine takes it out of `Debugged`. -/
theorem persists_debugged (dialect : Dialect) :
    Persists fun console => console.machine.Debugged dialect where
  step before := by
    unfold Console.step Console.whenRunning
    split
    · exact before.step _
    · exact before
  cycle before := by
    unfold Console.tickTimers Console.whenRunning
    split
    · exact before.tickTimers _
    · exact before
  register name value before := by
    unfold Console.withRegister
    split
    · next done => exact before.setNamed done
    · exact before
  key key pressed before := by
    unfold Console.withKey
    split
    · exact before.keypad _
    · exact before

namespace Session

variable {session : Session} {budget : Nat} {line : String}

private theorem answer_topic {topic : Topic}
    (asked : session.commandOf line = .ok (.info (some topic))) (budget : Nat) :
    session.answer budget line =
      .reply (Session.say { session with last := some (.info (some topic)) }
        (session.topicEvents topic)) := by
  rw [answer_of_asked asked Command.noConfusion]
  cases topic <;> rfl

/-- A request for the breakpoints is answered with a headline and a line for each of them. -/
theorem answer_breakpoints (asked : session.commandOf line = .ok (.info (some .breakpoints)))
    (budget : Nat) :
    ∃ reply headline, session.answer budget line = .reply reply ∧
      reply.outputs =
        .event headline :: session.sortedBreakpoints.map fun address =>
          .event (session.lineAt address) := by
  obtain ⟨headline, shown⟩ : ∃ headline, session.topicEvents .breakpoints =
      headline :: session.sortedBreakpoints.map session.lineAt := ⟨_, rfl⟩
  refine ⟨_, headline, answer_topic asked budget, ?_⟩
  rw [say, shown, List.map_cons, List.map_map]
  rfl

/-- A request for the call stack is answered with a line for each return address, newest first, or
with one that says that there is none. -/
theorem answer_stack (depth : session.machine.registers.sp.toNat ≤ stackDepth)
    (asked : session.commandOf line = .ok (.info (some .stack))) (budget : Nat) :
    let registers := session.machine.registers
    ∃ reply, session.answer budget line = .reply reply ∧
      reply.outputs.length = max 1 registers.sp.toNat ∧
      ∀ (level : Nat) (inside : level < stackDepth), level < registers.sp.toNat →
        reply.outputs[registers.sp.toNat - 1 - level]? =
          some (.event (frameEvent level registers.stack[level])) := by
  intro registers
  refine ⟨_, answer_topic asked budget, ?_⟩
  have length : registers.callStack.length = registers.sp.toNat :=
    Registers.length_callStack depth
  by_cases empty : registers.callStack = []
  · have shown : session.topicEvents .stack = [.info "Empty call stack"] := by
      simp only [topicEvents, stackEvents]
      split
      · rfl
      · next occupied => exact absurd empty occupied
    rw [empty, List.length_nil] at length
    rw [shown, ← length]
    exact ⟨rfl, fun level _ below => absurd below (Nat.not_lt_zero level)⟩
  · have shown : session.topicEvents .stack = (registers.callStack.mapIdx frameEvent).reverse := by
      simp only [topicEvents, stackEvents]
      split
      · next none => exact absurd none empty
      · rfl
    have positive : 0 < registers.sp.toNat := by
      rw [← length]
      exact List.length_pos_iff.mpr empty
    rw [shown]
    refine ⟨?_, fun level inside below => ?_⟩
    · simp only [say, List.length_map, List.length_reverse, List.length_mapIdx, length]
      omega
    · have slot : registers.callStack[level]? = some registers.stack[level] := by
        simp [Registers.callStack, below]
      -- The newest return address comes first, so a level is counted from the end.
      rw [say, List.getElem?_map, List.getElem?_reverse (by simp [length]; omega),
        List.length_mapIdx, length]
      have mirrored : registers.sp.toNat - 1 - (registers.sp.toNat - 1 - level) = level := by omega
      rw [mirrored, List.getElem?_mapIdx, slot]
      rfl

/-- Behind a command that executed instructions, the next listing begins at the program counter. -/
theorem listStart_of_executes {command : Command} {reply : Reply}
    (asked : session.commandOf line = .ok command) (executes : command.executes = true)
    (running : session.console.isRunning = true)
    (replied : session.answer budget line = .reply reply) :
    reply.session.listFrom = none ∧
      reply.session.listStart = reply.session.machine.registers.pc := by
  have unset : reply.session.listFrom = none := by
    have goesOn : command ≠ .exit := by
      rintro rfl
      contradiction
    rw [answer_of_asked asked goesOn] at replied
    have still : ({ session with last := some command } : Session).console.isRunning = true :=
      running
    cases command with
    | step count =>
      rw [execute?, unlessHalted_of_running still] at replied
      cases replied
      rfl
    | «continue» =>
      rw [execute?, unlessHalted_of_running still, continue?] at replied
      cases ran : run? session.breakpoints budget session.console with
      | none => simp [ran] at replied
      | some result =>
        simp only [ran] at replied
        cases replied
        rfl
    | _ => contradiction
  exact ⟨unset, by rw [listStart, unset, Option.getD_none]⟩

end Session

/-- Throughout a session with a program that was loaded, the stack pointer stays within the stack,
the machine runs unless it has a fault, it is not held, and its dialect is that of the load. The
return addresses in use are those below the stack pointer, and these are shown. Behind a command
that executed instructions, the next listing begins at the program counter. The breakpoints are
those that lines set and did not remove since, and each is shown once, in ascending order. -/
theorem session_invariant (console : Console Terminal) {program : List UInt8} {dialect : Dialect}
    (loads : (console.load program dialect).fault? = none) (budget : Nat) (lines : List String) :
    let start : Session := { console := console.load program dialect }
    let session := (Transcript.ofInput budget start.console lines).session
    let registers := session.machine.registers
    session.machine.Debugged dialect ∧
      registers.callStack.length = registers.sp.toNat ∧
      (session.breakpoints.Nodup ∧ ∀ address, address ∈ session.breakpoints ↔
        Mark.Stands (start.marks budget lines) address) ∧
      ∀ line,
        (session.commandOf line = .ok (.info (some .stack)) →
          ∃ reply, session.answer budget line = .reply reply ∧
            reply.outputs.length = max 1 registers.sp.toNat ∧
            ∀ (level : Nat) (inside : level < stackDepth), level < registers.sp.toNat →
              reply.outputs[registers.sp.toNat - 1 - level]? =
                some (.event (Session.frameEvent level registers.stack[level]))) ∧
        (session.commandOf line = .ok (.info (some .breakpoints)) →
          ∃ reply headline, ∃ shown : List Address, session.answer budget line = .reply reply ∧
            (reply.outputs = .event headline :: shown.map fun address =>
              .event (session.lineAt address)) ∧
            shown.Pairwise (· < ·) ∧
            ∀ address, address ∈ shown ↔ Mark.Stands (start.marks budget lines) address) ∧
        ∀ command reply, session.commandOf line = .ok command → command.executes = true →
          session.console.isRunning = true → session.answer budget line = .reply reply →
          reply.session.listFrom = none ∧
            reply.session.listStart = reply.session.machine.registers.pc := by
  intro start session registers
  have debugged : session.machine.Debugged dialect := by
    refine (persists_debugged dialect).transcript budget ?_ lines
    rw [Console.fault?, Console.machine_load] at loads
    rw [Console.machine_load]
    exact Machine.debugged_fresh loads
  obtain ⟨nodup, set⟩ : session.breakpoints.Nodup ∧ ∀ address, address ∈ session.breakpoints ↔
      Mark.Stands (start.marks budget lines) address :=
    Transcript.mem_breakpoints_iff budget start.console lines
  refine ⟨debugged, Registers.length_callStack debugged.depth, ⟨nodup, set⟩,
    fun line => ⟨fun asked => Session.answer_stack debugged.depth asked budget, ?_, ?_⟩⟩
  · intro asked
    obtain ⟨reply, headline, replied, shown⟩ := Session.answer_breakpoints asked budget
    refine ⟨reply, headline, session.sortedBreakpoints, replied, shown,
      Session.pairwise_sortedBreakpoints nodup, fun address => ?_⟩
    rw [Session.mem_sortedBreakpoints, set]
  · intro command reply asked executes running replied
    exact Session.listStart_of_executes asked executes running replied

/-- A session that sets its registers to their limits keeps within these bounds. -/
theorem session_invariant_deepest :
    let start : Console Terminal := .load (.new {} .zeros) [0x12, 0x00] {}
    let session := (Transcript.ofInput 1 start ["set sp 16", "set pc 0xffff"]).session
    start.fault? = none ∧
      session.machine.registers.sp = 16 ∧ session.machine.registers.pc = 0xffff ∧
      session.machine.Debugged {} ∧ session.machine.registers.callStack.length = 16 := by
  intro start session
  have loads : start.fault? = none := by
    rw [Console.fault?, Console.machine_load]
    rfl
  have set : session.machine.registers.sp = 16 ∧ session.machine.registers.pc = 0xffff := by
    decide +kernel
  have invariant := session_invariant (.new {} .zeros) loads 1 ["set sp 16", "set pc 0xffff"]
  refine ⟨loads, set.1, set.2, invariant.1, invariant.2.1.trans ?_⟩
  exact congrArg UInt8.toNat set.1

end Debugger

end Chip8
