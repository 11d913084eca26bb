import Chip8.Console.Checked
import Chip8.Proofs.Fitting
import Chip8.Proofs.History
import Chip8.Proofs.Loading

/-! # When arithmetic fails to fit

Within its bounds a machine computes nothing that its words cannot hold, with two exceptions. A
range is refused under its last address, which is computed before the range is looked at, so a
sprite without rows at zero asks for an address below zero. And the number of completed
instructions has its limit, far away. `Gives` relates a checked computation to the unchecked one,
from processor steps up to runs: `run_breaks_iff` says that a run breaks off in these two cases
only, and is the unchecked run otherwise.
-/

namespace Chip8

universe u

variable {η : Type u}

open Checked

namespace Machine

/-- The next instruction draws a sprite without rows, and the index is at zero. -/
def DrawsNowhere (machine : Machine) : Prop :=
  machine.mode = .running ∧ machine.registers.i = 0 ∧ ∃ x y rows,
    machine.instructionAt machine.registers.pc = .ok (.draw x y rows) ∧ rows.val = 0

/-- The next step completes an instruction, and the number of them has reached its limit. -/
def Exhausts [Host η] (machine : Machine) (host : η) : Prop :=
  counts ≤ machine.cycles + 1 ∧ (machine.completes? host).isSome = true

/-- What a processor step computes does not fit. -/
def Overflows [Host η] (machine : Machine) (host : η) : Prop :=
  machine.DrawsNowhere ∨ machine.Exhausts host

end Machine

/-- A checked computation breaks off in case of trouble, and otherwise gives what was expected. -/
structure Gives {α : Type u} (trouble : Prop) (checked : Option α) (expected : α) : Prop where
  breaks : trouble → checked = none
  agrees : ¬trouble → checked = some expected

namespace Gives

variable {α β : Type u} {trouble later : Prop} {checked : Option α} {expected : α}

private theorem of_never (never : ¬trouble) (same : checked = some expected) :
    Gives trouble checked expected := ⟨fun now => absurd now never, fun _ => same⟩

private theorem congr (gives : Gives trouble checked expected) (same : later ↔ trouble) :
    Gives later checked expected :=
  ⟨fun now => gives.breaks (same.mp now), fun sound => gives.agrees (mt same.mpr sound)⟩

private theorem map (gives : Gives trouble checked expected) (f : α → β) :
    Gives trouble (checked.map f) (f expected) :=
  ⟨fun now => by rw [gives.breaks now, Option.map_none],
    fun sound => by rw [gives.agrees sound, Option.map_some]⟩

/-- Of two computations in turn, the second matters only if the first gave its result. -/
theorem bind (gives : Gives trouble checked expected) {next : α → Option β} {result : β}
    (goesOn : Gives later (next expected) result) :
    Gives (trouble ∨ later) (checked.bind next) result := by
  by_cases now : trouble
  · exact ⟨fun _ => by rw [gives.breaks now, Option.bind_none],
      fun sound => absurd (.inl now) sound⟩
  · rw [gives.agrees now, Option.bind_some]
    exact goesOn.congr (or_iff_right now)

end Gives

namespace Machine.Checked

variable [Host η] {machine : Machine} {host : η}

private theorem attempt_waiting (bounds : machine.InBounds) {x : VIndex}
    (waiting : machine.mode = .waitingForKey x) :
    Gives (machine.Overflows host) (attempt machine host) (machine.attempt host) := by
  have aside : ¬machine.DrawsNowhere := by
    rintro ⟨active, -, -⟩
    rw [waiting] at active
    contradiction
  have near := (bounds.waiting x waiting).1
  cases found : machine.keypad.first? with
  | none =>
    have idle : ¬machine.Exhausts host := by
      rintro ⟨-, completed⟩
      rw [completes?_of_waiting waiting, found] at completed
      contradiction
    refine ⟨fun trouble => absurd trouble (not_or.mpr ⟨aside, idle⟩), fun _ => ?_⟩
    simp only [attempt, Machine.attempt, waiting, found]
  | some key =>
    have completed : (machine.completes? host).isSome = true := by
      rw [completes?_of_waiting waiting, found]
      rfl
    constructor
    · intro trouble
      obtain ⟨full, -⟩ := trouble.resolve_left aside
      simp only [attempt, waiting, found, resume_none key full, Option.map_none]
    · intro sound
      have room : machine.cycles + 1 < counts :=
        Nat.lt_of_not_le fun full => sound (.inr ⟨full, completed⟩)
      simp only [attempt, Machine.attempt, waiting, found, resume_eq key near room,
        Option.map_some]

/-- A step that fetches nothing computes nothing that could fail to fit. -/
theorem attempt_unfetched (active : machine.mode = .running) {fault : Fault}
    (missing : machine.instructionAt machine.registers.pc = .error fault) :
    Gives (machine.Overflows host) (attempt machine host) (machine.attempt host) := by
  constructor
  · rintro (⟨-, -, x, y, rows, fetched, -⟩ | ⟨-, completed⟩)
    · rw [missing] at fetched
      contradiction
    · rw [completes?_of_unfetched active missing] at completed
      contradiction
  · intro _
    simp only [attempt, Machine.attempt, active, instructionAt_eq, missing, Option.bind_some]

private theorem attempt_nowhere (nowhere : machine.DrawsNowhere) :
    Gives (machine.Overflows host) (attempt machine host) (machine.attempt host) := by
  refine ⟨fun _ => ?_, fun sound => absurd (.inl nowhere) sound⟩
  obtain ⟨active, zero, x, y, rows, drawn, empty⟩ := nowhere
  simp only [attempt, active, instructionAt_eq, drawn, Option.bind_some, execute,
    drawSprite_none host x y empty zero, Option.bind_none]

section Executed

variable {instruction : Instruction} (active : machine.mode = .running)
  (fetched : machine.instructionAt machine.registers.pc = .ok instruction)
  (executed : execute machine host instruction = some (machine.execute host instruction))
  (somewhere : ¬machine.DrawsNowhere)

include active fetched executed somewhere

/-- A refused instruction is not counted. -/
theorem attempt_refused {fault : Fault}
    (failed : (machine.execute host instruction).outcome = .error fault) :
    Gives (machine.Overflows host) (attempt machine host) (machine.attempt host) := by
  have idle : machine.completes? host = none :=
    completes?_of_refuses active fetched (execute_eq_error_iff.mp failed)
  constructor
  · intro trouble
    have completed := (trouble.resolve_left somewhere).2
    rw [idle] at completed
    contradiction
  · intro _
    simp only [attempt, Machine.attempt, active, instructionAt_eq, fetched, executed, failed,
      Option.bind_some]

/-- What completes an instruction has to count it. -/
theorem attempt_done {flow : Flow}
    (done : (machine.execute host instruction).outcome = .ok flow) :
    Gives (machine.Overflows host) (attempt machine host) (machine.attempt host) := by
  have near := lt_of_fetched fetched
  have kept : (machine.execute host instruction).machine.cycles = machine.cycles :=
    (machine.execute_untouched host instruction).cycles
  have completed := completes?_of_done active fetched done
  have attempted : attempt machine host =
      (follow (machine.execute host instruction).machine machine.registers.pc flow).map
        fun after => (after, (machine.execute host instruction).host, none) := by
    simp only [attempt, active, instructionAt_eq, fetched, executed, done, Option.bind_some]
  have expected : machine.attempt host =
      ((machine.execute host instruction).machine.follow machine.registers.pc flow,
        (machine.execute host instruction).host, none) := by
    simp only [Machine.attempt, active, fetched, done]
  rw [attempted, expected]
  constructor
  · intro trouble
    obtain ⟨full, counted⟩ := trouble.resolve_left somewhere
    have moves : ∀ x, flow ≠ .waitForKey x := by
      rintro x rfl
      rw [completed] at counted
      contradiction
    rw [follow_none moves (kept ▸ full), Option.map_none]
  · intro sound
    have room : (∃ x, flow = .waitForKey x) ∨
        (machine.execute host instruction).machine.cycles + 1 < counts := by
      rw [kept]
      by_cases full : counts ≤ machine.cycles + 1
      · left
        cases flow with
        | waitForKey x => exact ⟨x, rfl⟩
        | _ => exact absurd (.inr ⟨full, by rw [completed]; rfl⟩) sound
      · exact .inr (Nat.lt_of_not_le full)
    rw [follow_eq near room, Option.map_some]

end Executed

private theorem attempt_gives (bounds : machine.InBounds) (host : η) :
    Gives (machine.Overflows host) (attempt machine host) (machine.attempt host) := by
  cases mode : machine.mode with
  | waitingForKey x => exact attempt_waiting bounds mode
  | running =>
    cases fetched : machine.instructionAt machine.registers.pc with
    | error fault => exact attempt_unfetched mode fetched
    | ok instruction =>
      by_cases nowhere : machine.DrawsNowhere
      · exact attempt_nowhere nowhere
      have sound (x y : VIndex) (rows : RowCount) (same : instruction = .draw x y rows)
          (empty : rows.val = 0) : machine.registers.i ≠ 0 :=
        fun zero => nowhere ⟨mode, zero, x, y, rows, same ▸ fetched, empty⟩
      have executed := execute_eq bounds.registers (lt_of_fetched fetched) sound host
      cases done : (machine.execute host instruction).outcome with
      | error fault => exact attempt_refused mode fetched executed nowhere done
      | ok flow => exact attempt_done mode fetched executed nowhere done

/-- A processor step computes nothing that does not fit, but for the two exceptions. -/
theorem step_gives (bounds : machine.InBounds) (host : η) :
    Gives (machine.Overflows host) (step machine host) (machine.step host) :=
  (attempt_gives bounds host).map _

private theorem press_eq (machine : Machine) (host : η) (event : KeyEvent) :
    press machine host event = some (machine.press host event) := by
  rw [press, Keypad.Checked.set_eq]
  rfl

private theorem pollInput_eq (machine : Machine) (host : η) :
    pollInput machine host = some (machine.pollInput host) := by
  simp only [pollInput, Machine.pollInput, press_eq]
  cases (Host.poll host (.idle machine.isPaused)).1.key <;> rfl

private theorem load_eq (machine : Machine) (host : η) (program : List UInt8) (dialect : Dialect) :
    load machine host program dialect = some (machine.load host program dialect) := by
  have started : reset machine dialect = some (machine.reset dialect) := by
    rw [reset, Memory.Checked.initial_eq]
    rfl
  rw [load, started, Option.bind_some, Memory.Checked.loadProgram_eq]
  rfl

end Machine.Checked

/-- What happens at a moment does not fit. Only a processor step computes anything that may not. -/
def Moment.Overflows [Host η] (moment : Moment η) : Prop :=
  moment.activity = .step ∧ moment.machine.Overflows moment.host

namespace Console

/-- An overflow among the moments that a request comes to. -/
theorem overflows_momentIf [Host η] {console : Console η} {due : Bool} {activity : Activity} :
    (∃ moment ∈ console.momentIf due activity, moment.Overflows) ↔
      console.isRunning = true ∧ due = true ∧ activity = .step ∧
        console.machine.Overflows console.host := by
  simp only [momentIf]
  cases console.isRunning with
  | false => simp
  | true =>
    cases due with
    | false => simp
    | true => simp [Moment.Overflows, moment]

namespace Checked

def perform [Host η] (console : Console η) : Operation → Option (Console η)
  | .load program dialect => load console program dialect
  | .tickAt now => tickAt console now
  | .step => step console
  | .tickTimers => some console.tickTimers
  | .pause paused => some (console.pause paused)
  | .stop => some console.stop

/-- Carry out requests in turn, up to the first that breaks off. -/
def run [Host η] (console : Console η) : List Operation → Option (Console η)
  | [] => some console
  | operation :: rest => (perform console operation).bind fun console => run console rest

variable [Host η] {console : Console η}

private theorem load_eq (console : Console η) (program : List UInt8) (dialect : Dialect) :
    load console program dialect = some (console.load program dialect) := by
  rw [load, act, Machine.Checked.load_eq]
  rfl

private theorem pollStage_eq (now : UInt32) (console : Console η) :
    whenRunning console (pollStage now) = some (console.whenRunning (Console.pollStage now)) := by
  simp only [whenRunning, Console.whenRunning, pollStage, Console.pollStage, act, Console.act,
    Machine.Checked.pollInput_eq, Option.map_some]
  split
  · split <;> rfl
  · rfl

private theorem act_step_gives (console : Console η) (bounds : console.machine.InBounds) :
    Gives (console.machine.Overflows console.host) (act console Machine.Checked.step)
      (console.act Machine.step) :=
  (Machine.Checked.step_gives bounds console.host).map _

private theorem cpuStage_gives (bounds : console.machine.InBounds) (now : UInt32) :
    Gives ((!console.isPaused && console.schedule.cpu.isDue now) = true ∧
        console.machine.Overflows console.host)
      (cpuStage now console) (Console.cpuStage now console) := by
  simp only [cpuStage, Console.cpuStage, Cadence.fire_fst]
  cases console.isPaused with
  | true => exact .of_never (fun trouble => Bool.noConfusion trouble.1) rfl
  | false =>
    cases console.schedule.cpu.isDue now with
    | false => exact .of_never (fun trouble => Bool.noConfusion trouble.1) rfl
    | true =>
      have gives := act_step_gives
        { console with schedule.cpu := (console.schedule.cpu.fire now).2 } bounds
      exact gives.congr (by simp)

/-- What gives the result of a stage gives it also when the stage depends on a running program. -/
theorem whenRunning_gives (console : Console η) (due : Bool)
    (checked : Console η → Option (Console η)) (stage : Console η → Console η)
    (gives : Gives (due = true ∧ console.machine.Overflows console.host) (checked console)
      (stage console)) :
    Gives (∃ moment ∈ console.momentIf due .step, moment.Overflows) (whenRunning console checked)
      (console.whenRunning stage) := by
  rw [overflows_momentIf]
  simp only [whenRunning, Console.whenRunning]
  cases console.isRunning with
  | false => exact .of_never (fun trouble => Bool.noConfusion trouble.1) rfl
  | true => exact gives.congr (by simp)

/-- Only the processor stage of a tick computes anything that may not fit. -/
theorem tickAt_gives (bounds : console.machine.InBounds) (now : UInt32) :
    Gives (∃ moment ∈ console.moments (.tickAt now), moment.Overflows) (tickAt console now)
      (console.tickAt now) := by
  have polled : (console.whenRunning (Console.pollStage now)).machine.InBounds := by
    have cut := chain_whenRunning (Console.pollStage now) .poll (console.state_pollStage now)
    exact cut.inBounds bounds
  have stepped := whenRunning_gives _ _ _ _ (cpuStage_gives polled now)
  rw [tickAt, pollStage_eq, Option.bind_some]
  refine Gives.congr (stepped.map _) ?_
  simp only [moments, List.mem_append, or_and_right, exists_or]
  constructor
  · rintro ((poll | step) | cycle)
    · obtain ⟨-, -, other, -⟩ := overflows_momentIf.mp poll
      contradiction
    · exact step
    · obtain ⟨-, -, other, -⟩ := overflows_momentIf.mp cycle
      contradiction
  · exact fun step => .inl (.inr step)

private theorem perform_gives (bounds : console.machine.InBounds) (operation : Operation) :
    Gives (∃ moment ∈ console.moments operation, moment.Overflows) (perform console operation)
      (console.perform operation) := by
  cases operation with
  | tickAt now => exact tickAt_gives bounds now
  | step =>
    have gives : Gives (true = true ∧ console.machine.Overflows console.host)
        (act console Machine.Checked.step) (console.act Machine.step) :=
      (act_step_gives console bounds).congr (by simp)
    exact whenRunning_gives console true (act · Machine.Checked.step) (·.act Machine.step) gives
  | load program dialect =>
    refine .of_never ?_ (load_eq console program dialect)
    rintro ⟨_, member, other, -⟩
    cases List.mem_singleton.mp member
    contradiction
  | tickTimers =>
    refine .of_never ?_ rfl
    intro trouble
    obtain ⟨-, -, other, -⟩ := overflows_momentIf.mp trouble
    contradiction
  | pause paused =>
    refine .of_never ?_ rfl
    rintro ⟨_, member, other, -⟩
    cases List.mem_singleton.mp member
    contradiction
  | stop =>
    refine .of_never ?_ rfl
    rintro ⟨_, member, other, -⟩
    cases List.mem_singleton.mp member
    contradiction

/-- A run breaks off when a moment of it overflows, and is the unchecked run otherwise. -/
theorem run_gives (console : Console η) (bounds : console.machine.InBounds)
    (operations : List Operation) :
    Gives (∃ moment ∈ console.history operations, moment.Overflows) (run console operations)
      (console.run operations) := by
  induction operations generalizing console with
  | nil => exact .of_never (fun ⟨_, member, _⟩ => List.not_mem_nil member) rfl
  | cons operation rest ih =>
    have kept : (console.perform operation).machine.InBounds :=
      (console.chain_moments operation).inBounds bounds
    refine Gives.congr ((perform_gives bounds operation).bind (ih _ kept)) ?_
    simp only [history, List.mem_append, or_and_right, exists_or]

end Checked

end Console

def Moment.isStep (moment : Moment η) : Bool := decide (moment.activity = .step)

private theorem Machine.cycles_step_le [Host η] (machine : Machine) (host : η) :
    (machine.step host).1.cycles ≤ machine.cycles + 1 := by
  have stepped := machine.step_stepped host
  generalize machine.step host = result at stepped ⊢
  cases stepped with
  | waited => exact Nat.le_succ _
  | resumed => exact Nat.le_refl _
  | unfetched => exact Nat.le_succ _
  | @refused instruction => cases instruction <;> exact Nat.le_succ _
  | @completed instruction flow active fetched done =>
    have kept := (machine.execute_untouched host instruction).cycles
    cases flow with
    | waitForKey x => exact Nat.le_succ_of_le (Nat.le_of_eq kept)
    | _ => exact Nat.succ_le_succ (Nat.le_of_eq kept)

/-- Only processor steps complete instructions, each at most one, and a load starts the count
anew. -/
theorem Moment.cycles_after_le [Host η] (moment : Moment η) :
    moment.after.1.cycles ≤ moment.machine.cycles + if moment.isStep then 1 else 0 := by
  obtain ⟨activity, machine, host⟩ := moment
  cases activity with
  | load program dialect =>
    have fresh : (machine.load host program dialect).1.cycles = 0 := by
      simp only [Machine.load]
      split <;> rfl
    exact Nat.le_trans (Nat.le_of_eq fresh) (Nat.zero_le _)
  | step => exact machine.cycles_step_le host
  | poll => exact Nat.le_of_eq (machine.rests_pollInput host).cycles
  | cycle => exact Nat.le_of_eq (machine.rests_tickTimers host).cycles
  | pause paused => exact Nat.le_refl _
  | stop => exact Nat.le_refl _

private theorem Chain.cycles_le [Host η] {start final : Machine × η} {moments : List (Moment η)}
    (chain : Chain start moments final) :
    final.1.cycles ≤ start.1.cycles + moments.countP Moment.isStep := by
  induction chain with
  | nil => exact Nat.le_add_right _ _
  | @cons moment rest final running tail ih =>
    have first := moment.cycles_after_le
    have same : moment.before.1 = moment.machine := rfl
    rw [List.countP_cons, same]
    omega

namespace Console

private theorem countP_momentIf_le (console : Console η) (due : Bool) (activity : Activity) :
    (console.momentIf due activity).countP Moment.isStep ≤ if activity = .step then 1 else 0 := by
  simp only [momentIf]
  split
  · simp only [List.countP_singleton, Moment.isStep, moment, decide_eq_true_eq]
    exact Nat.le_refl _
  · exact Nat.zero_le _

/-- A request takes at most one processor step. -/
theorem countP_moments_le [Host η] (console : Console η) (operation : Operation) :
    (console.moments operation).countP Moment.isStep ≤ 1 := by
  cases operation with
  | tickAt now =>
    simp only [moments, List.countP_append]
    have polls := console.countP_momentIf_le (console.schedule.input.isDue now) .poll
    have steps := (console.whenRunning (pollStage now)).countP_momentIf_le
      (!(console.whenRunning (pollStage now)).isPaused &&
        (console.whenRunning (pollStage now)).schedule.cpu.isDue now) .step
    have cycles := ((console.whenRunning (pollStage now)).whenRunning
      (cpuStage now)).countP_momentIf_le (((console.whenRunning (pollStage now)).whenRunning
        (cpuStage now)).schedule.timers.isDue now) .cycle
    exact Nat.add_le_add (Nat.add_le_add polls steps) cycles
  | step => exact console.countP_momentIf_le true .step
  | tickTimers => exact Nat.le_succ_of_le (console.countP_momentIf_le true .cycle)
  | _ => exact Nat.zero_le _

private theorem countP_history_le [Host η] (console : Console η) (operations : List Operation) :
    (console.history operations).countP Moment.isStep ≤ operations.length := by
  induction operations generalizing console with
  | nil => exact Nat.le_refl 0
  | cons operation rest ih =>
    have first := console.countP_moments_le operation
    have others := ih (console.perform operation)
    rw [history, List.countP_append, List.length_cons]
    omega

/-- Before each step of a run, fewer instructions have been completed than requests are made. -/
theorem cycles_lt_length [Host η] (console : Console η) (new : console.machine.cycles = 0)
    {operations : List Operation} {moment : Moment η}
    (member : moment ∈ console.history operations) (step : moment.activity = .step) :
    moment.machine.cycles < operations.length := by
  obtain ⟨first, second, cut⟩ := List.append_of_mem member
  have chain := console.chain_history operations
  have counted := console.countP_history_le operations
  rw [cut] at chain counted
  have reached : moment.machine.cycles ≤ console.machine.cycles + first.countP Moment.isStep :=
    chain.around.1.cycles_le
  have isStep : moment.isStep = true := decide_eq_true step
  rw [List.countP_append, List.countP_cons, if_pos isStep] at counted
  omega

/-- Whatever the program, the host, the random bytes and the requests, a run breaks off just when a
step of it draws an empty sprite at zero or counts an instruction too many, which takes as many
requests as a word can count. Any other run is what it is without a limit to words. -/
theorem run_breaks_iff [Host η] (host : η) (random : RandomSource) (operations : List Operation) :
    (Checked.run (Console.new host random) operations = none ↔
      ∃ moment ∈ (Console.new host random).history operations, moment.Overflows) ∧
    (∀ after, Checked.run (Console.new host random) operations = some after →
      after = (Console.new host random).run operations) ∧
    (operations.length < counts →
      ∀ moment ∈ (Console.new host random).history operations, moment.Overflows →
        moment.machine.DrawsNowhere) := by
  have gives := Checked.run_gives (Console.new host random) (.initial random) operations
  refine ⟨⟨?_, gives.breaks⟩, ?_, ?_⟩
  · intro broken
    refine Classical.byContradiction fun sound => ?_
    rw [gives.agrees sound] at broken
    contradiction
  · intro after reached
    by_cases trouble : ∃ moment ∈ (Console.new host random).history operations, moment.Overflows
    · rw [gives.breaks trouble] at reached
      contradiction
    · rw [gives.agrees trouble] at reached
      exact (Option.some.inj reached).symm
  · rintro short moment member ⟨step, nowhere | ⟨full, -⟩⟩
    · exact nowhere
    · have few := cycles_lt_length (Console.new host random) rfl member step
      omega

/-- A program that begins with a sprite without rows does not get beyond its first step. -/
theorem run_of_emptySprite [Host η] (host : η) {random : RandomSource} {program : List UInt8}
    {dialect : Dialect} {x y : VIndex} {rows : RowCount} (fits : program.length ≤ 3584)
    (first : (Machine.fresh program dialect random).instructionAt 0x200 = .ok (.draw x y rows))
    (empty : rows.val = 0) :
    Checked.run (Console.new host random) [.load program dialect, .step] = none := by
  have loaded : (Machine.initial random).load host program dialect =
      (Machine.fresh program dialect random, host) := by
    rw [Machine.load_eq, if_pos fits]
    rfl
  have bounds := Machine.InBounds.load (.initial random) host program dialect
  rw [loaded] at bounds
  have running : (Machine.fresh program dialect random).isRunning = true := decide_eq_true fits
  have broken : Machine.Checked.step (Machine.fresh program dialect random) host = none :=
    (Machine.Checked.step_gives bounds host).breaks (.inl ⟨rfl, rfl, x, y, rows, first, empty⟩)
  simp only [Checked.run, Checked.perform, Checked.load, Checked.act, Checked.step,
    Checked.whenRunning, Machine.Checked.load_eq, new, loaded, isRunning, running, broken,
    Option.map_some, Option.bind_some, if_true, Option.map_none, Option.bind_none]

/-- A program of one such instruction. -/
theorem run_emptySprite :
    Checked.run (Console.new Silent.silent .zeros) [.load [0xD0, 0x00] {}, .step] = none := by
  have read : (Memory.holding [0xD0, 0x00]).readWord 0x200 = .ok 0xD000 := by
    simp only [Memory.readWord, Memory.read, Memory.get?_holding]
    rfl
  have decoded : Instruction.decode? 0xD000 = some (.draw 0 0 0) := by decide
  have memory : (Machine.fresh [0xD0, 0x00] {} .zeros).memory = .holding [0xD0, 0x00] := rfl
  have first : (Machine.fresh [0xD0, 0x00] {} .zeros).instructionAt 0x200 =
      .ok (.draw 0 0 0) := by
    rw [Machine.instructionAt, memory, read]
    simp only [decoded]
  exact run_of_emptySprite Silent.silent (by decide) first rfl

end Console

end Chip8
