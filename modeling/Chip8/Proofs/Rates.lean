import Chip8.Proofs.Cadence
import Chip8.Proofs.Countdown
import Chip8.Proofs.Polling
import Chip8.Proofs.Recording
import Chip8.Proofs.Ticks
import Mathlib.Algebra.Order.Floor.Div

/-! # Rates under regular ticks

A console is ticked at the multiples of a gap. A period may end between two ticks, and then its
cadence fires at the second one and counts from there, so it fires at every so many ticks as gaps
are needed to cover the period: `Cadence.Regular` is what that comes to after each of the ticks. So
the numbers of polls, processor steps and timer cycles follow from the number of ticks, whatever the
program does: `count_regularTicks`. What is counted shows outside as well. The host is asked for
input at each poll, each processor step completes an instruction or finds no key for one that asks
for a key, and each timer cycle is counted by the timers.
-/

namespace Chip8

universe u

variable {η : Type u}

namespace Cadence

/-- A cadence that was asked at the first multiples of a gap: it has last fired at a multiple of the
gaps that cover its period, the last one so far. -/
structure Regular (cadence : Cadence) (period gap asked : Nat) : Prop where
  period_eq : cadence.period.toNat = period
  lastFired : cadence.lastFired =
    UInt32.ofNat (asked / (period ⌈/⌉ gap) * (period ⌈/⌉ gap) * gap)

variable {cadence : Cadence} {period gap asked : Nat}

/-- A period has passed after as many gaps as cover it, and no sooner. -/
theorem Regular.isDue (regular : cadence.Regular period gap asked) (positive : 0 < period)
    (forward : 0 < gap) (bound : period + gap ≤ 2 ^ 32) :
    cadence.isDue (UInt32.ofNat ((asked + 1) * gap)) = decide (period ⌈/⌉ gap ∣ asked + 1) := by
  have covers (gaps : Nat) : period ⌈/⌉ gap ≤ gaps ↔ period ≤ gap * gaps :=
    ceilDiv_le_iff_le_mul forward
  have lastFired := regular.lastFired
  generalize period ⌈/⌉ gap = stride at covers lastFired ⊢
  have needed : 0 < stride := by
    have none := covers 0
    omega
  have multiple : stride ∣ asked / stride * stride := Nat.dvd_mul_left ..
  have whole := Nat.div_add_mod' asked stride
  have short := Nat.mod_lt asked needed
  -- `past` gaps ended since the last firing, and one more ends now.
  generalize asked / stride * stride = fired at multiple whole lastFired
  generalize asked % stride = past at whole short
  have elapsed : (asked + 1) * gap = fired * gap + gap * (past + 1) := by
    rw [← whole, Nat.mul_comm gap, ← Nat.add_mul, Nat.add_assoc]
  have near : gap * (past + 1) < 2 ^ 32 := by
    have before := covers past
    rw [Nat.mul_succ]
    omega
  rw [isDue_of_near lastFired (by omega) (by omega), regular.period_eq, elapsed,
    Nat.add_sub_cancel_left, decide_eq_decide, ← covers, ← whole, Nat.add_assoc,
    Nat.dvd_add_right multiple]
  constructor
  · intro covered
    have last : past + 1 = stride := by omega
    rw [last]
  · exact Nat.le_of_dvd (Nat.succ_pos past)

/-- The next question leaves a cadence regular, whether it fires or not. -/
theorem Regular.fire (regular : cadence.Regular period gap asked) (positive : 0 < period)
    (forward : 0 < gap) (bound : period + gap ≤ 2 ^ 32) :
    (cadence.fire (UInt32.ofNat ((asked + 1) * gap))).2.Regular period gap (asked + 1) := by
  have due := regular.isDue positive forward bound
  refine ⟨(congrArg _ (fire_period ..)).trans regular.period_eq, ?_⟩
  by_cases divides : period ⌈/⌉ gap ∣ asked + 1
  · rw [decide_eq_true divides] at due
    rw [Cadence.fire, if_pos due, Nat.div_mul_cancel divides]
  · rw [decide_eq_false divides] at due
    rw [fire_of_early due, regular.lastFired, Nat.succ_div, if_neg divides, Nat.add_zero]

end Cadence

/-- The cadences of a console that was ticked at the first multiples of a gap. -/
structure Schedule.Regular (schedule : Schedule) (gap ticks : Nat) : Prop where
  cpu : schedule.cpu.Regular 2 gap ticks
  timers : schedule.timers.Regular 16 gap ticks
  input : schedule.input.Regular 1 gap ticks

private theorem Schedule.regular_initial (gap : Nat) : Schedule.initial.Regular gap 0 := by
  have start (period : Nat) : (0 : UInt32) =
      UInt32.ofNat (0 / (period ⌈/⌉ gap) * (period ⌈/⌉ gap) * gap) := by
    rw [Nat.zero_div, Nat.zero_mul, Nat.zero_mul]
    rfl
  exact ⟨⟨rfl, start 2⟩, ⟨rfl, start 16⟩, ⟨rfl, start 1⟩⟩

/-- Ticks at the first multiples of a gap, as the counter shows them. -/
def regularTicks (gap count : Nat) : List Operation :=
  (List.range count).map fun index => .tickAt (UInt32.ofNat ((index + 1) * gap))

private theorem regularTicks_succ (gap count : Nat) :
    regularTicks gap (count + 1) =
      regularTicks gap count ++ [.tickAt (UInt32.ofNat ((count + 1) * gap))] := by
  rw [regularTicks, List.range_succ, List.map_append, ← regularTicks, List.map_singleton]

/-- Regular ticks begin with regular ticks. -/
private theorem regularTicks_prefix {gap count : Nat} {first second : List Operation}
    (cut : regularTicks gap count = first ++ second) :
    first.length ≤ count ∧ first = regularTicks gap first.length := by
  have length := congrArg List.length cut
  rw [regularTicks, List.length_map, List.length_range, List.length_append] at length
  have within : first.length ≤ count := by omega
  have taken : (regularTicks gap count).take first.length = first := by
    rw [cut, List.take_left]
  refine ⟨within, ?_⟩
  rw [regularTicks, ← List.map_take, List.take_range, Nat.min_eq_left within] at taken
  exact taken.symm

namespace Machine

/-- Whether a processor step finds no key for the instruction that it is about. -/
def awaitsKey (machine : Machine) : Bool := machine.current?.any machine.stalls

/-- A step without a fault completes an instruction, unless that has to wait for a key. -/
theorem cycles_step [Host η] {machine : Machine} {host : η}
    (running : (machine.step host).1.isRunning = true) :
    (machine.step host).1.cycles + machine.awaitsKey.toNat = machine.cycles + 1 := by
  obtain ⟨instruction, current, framed, -⟩ | ⟨halted, -⟩ :=
    (machine.step_stepped host).framed_or_halted
  · rw [framed.cycles, awaitsKey, current, Option.any_some]
    cases machine.stalls instruction <;> rfl
  · rw [halted] at running
    contradiction

end Machine

namespace Moment

variable [Host η] {moment : Moment η}

/-- Whether a moment is a processor step that finds no key for its instruction. -/
def waits (moment : Moment η) : Bool :=
  moment.activity == .step && moment.machine.awaitsKey

private theorem isRunning_of_after (noLoad : moment.activity.isLoad = false)
    (needed : moment.activity.needsProgram = true → moment.machine.isRunning = true)
    (running : moment.after.1.isRunning = true) : moment.machine.isRunning = true := by
  obtain ⟨activity, machine, host⟩ := moment
  cases activity with
  | load => contradiction
  | poll => exact needed rfl
  | step => exact needed rfl
  | cycle => exact needed rfl
  | pause paused => exact running
  | stop => contradiction

private theorem cycles_after (noLoad : moment.activity.isLoad = false)
    (running : moment.after.1.isRunning = true) :
    moment.after.1.cycles + (if moment.waits then 1 else 0) =
      moment.machine.cycles + if moment.activity == .step then 1 else 0 := by
  by_cases step : moment.activity = .step
  · obtain ⟨activity, machine, host⟩ := moment
    cases step
    have counted := Machine.cycles_step running
    rwa [Bool.toNat, Bool.cond_eq_ite] at counted
  · have other : (moment.activity == .step) = false := beq_false_of_ne step
    simp only [waits, other, Bool.false_and, (moment.rests_of_idle noLoad step).cycles]

end Moment

/-- While nothing stops a machine, the instructions completed and the steps spent on waiting for a
key are all of its processor steps. -/
theorem Chain.cycles_of_running [Host η] {start final : Machine × η} {moments : List (Moment η)}
    (chain : Chain start moments final)
    (noLoad : ∀ moment ∈ moments, moment.activity.isLoad = false)
    (running : final.1.isRunning = true) :
    start.1.isRunning = true ∧
      final.1.cycles + moments.countP Moment.waits =
        start.1.cycles + (moments.map Moment.activity).count .step := by
  induction chain with
  | nil => exact ⟨running, rfl⟩
  | @cons moment rest final needed tail ih =>
    obtain ⟨first, others⟩ := List.forall_mem_cons.mp noLoad
    obtain ⟨after, counted⟩ := ih others running
    refine ⟨Moment.isRunning_of_after first needed after, ?_⟩
    have here := Moment.cycles_after first after
    have same : moment.before.1 = moment.machine := rfl
    rw [List.countP_cons, List.map_cons, List.count_cons, same]
    omega

/-- The milliseconds between two times that an activity is due, if the clock is what decides. -/
def Activity.period? : Activity → Option Nat
  | .poll => some 1
  | .step => some 2
  | .cycle => some 16
  | .load .. | .pause _ | .stop => none

private theorem isLoad_of_mem_regularTicks {gap count : Nat} {operation : Operation}
    (member : operation ∈ regularTicks gap count) : operation.isLoad = false := by
  obtain ⟨index, -, rfl⟩ := List.mem_map.mp member
  rfl

namespace Console

variable [Host η] {console : Console η} {gap : Nat}

/-- A tick at the next multiple of the gap, with the processor free, keeps the cadences regular. -/
theorem regular_tickAt {ticks : Nat} (regular : console.schedule.Regular gap ticks)
    (forward : 0 < gap) (bound : gap ≤ 2 ^ 32 - 16)
    (running : (console.tickAt (UInt32.ofNat ((ticks + 1) * gap))).isRunning = true)
    (free : (console.tickAt (UInt32.ofNat ((ticks + 1) * gap))).isPaused = false) :
    (console.tickAt (UInt32.ofNat ((ticks + 1) * gap))).schedule.Regular gap (ticks + 1) := by
  rw [schedule_tickAt running, free]
  exact ⟨regular.cpu.fire (by decide) forward (by omega),
    regular.timers.fire (by decide) forward (by omega),
    regular.input.fire (by decide) forward (by omega)⟩

/-- Such a tick comes to the activities whose strides end with it. -/
theorem count_tickAt {ticks : Nat} (regular : console.schedule.Regular gap ticks)
    (forward : 0 < gap) (bound : gap ≤ 2 ^ 32 - 16)
    (running : (console.tickAt (UInt32.ofNat ((ticks + 1) * gap))).isRunning = true)
    (free : (console.tickAt (UInt32.ofNat ((ticks + 1) * gap))).isPaused = false)
    {activity : Activity} {period : Nat} (timed : activity.period? = some period) :
    (console.activities [.tickAt (UInt32.ofNat ((ticks + 1) * gap))]).count activity =
      if period ⌈/⌉ gap ∣ ticks + 1 then 1 else 0 := by
  have ticked := activities_tickAt running
  rw [free, regular.input.isDue (by decide) forward (by omega),
    regular.cpu.isDue (by decide) forward (by omega),
    regular.timers.isDue (by decide) forward (by omega)] at ticked
  simp only [activities, history, List.append_nil, ticked, Bool.not_false, Bool.true_and,
    decide_eq_true_eq, List.count_append]
  cases activity with
  | poll => cases timed; split <;> split <;> split <;> rfl
  | step => cases timed; split <;> split <;> split <;> rfl
  | cycle => cases timed; split <;> split <;> split <;> rfl
  | _ => contradiction

section Ticking

variable {count : Nat} (regular : console.schedule.Regular gap 0) (forward : 0 < gap)
  (bound : gap ≤ 2 ^ 32 - 16)
  (goes : ∀ ticks ≤ count, (console.run (regularTicks gap ticks)).isRunning = true ∧
    (console.run (regularTicks gap ticks)).isPaused = false)

include regular forward bound goes

private theorem count_run_regularTicks :
    (console.run (regularTicks gap count)).schedule.Regular gap count ∧
      ∀ activity period, activity.period? = some period →
        (console.activities (regularTicks gap count)).count activity =
          count / (period ⌈/⌉ gap) := by
  induction count with
  | zero =>
    refine ⟨regular, fun activity period timed => ?_⟩
    rw [Nat.zero_div]
    rfl
  | succ count ih =>
    obtain ⟨running, free⟩ := goes (count + 1) (Nat.le_refl _)
    obtain ⟨regular', counted⟩ := ih fun ticks within => goes ticks (Nat.le_succ_of_le within)
    rw [regularTicks_succ, run_append] at running free ⊢
    refine ⟨regular_tickAt regular' forward bound running free, fun activity period timed => ?_⟩
    rw [activities_append, List.count_append, counted activity period timed,
      count_tickAt regular' forward bound running free timed, Nat.succ_div]

/-- The host is asked for input as often as that. -/
private theorem countP_calls_regularTicks :
    (console.calls (regularTicks gap count)).countP Call.isPoll = count / (1 ⌈/⌉ gap) := by
  have regular' : console.recorded.schedule.Regular gap 0 := regular
  obtain ⟨-, counted⟩ := count_run_regularTicks regular' forward bound fun ticks within => by
    rw [isRunning, isPaused, machine_run_recorded]
    exact goes ticks within
  have polled := (console.recorded.chain_history (regularTicks gap count)).countP_isPoll
  have unasked : console.recorded.state.2.calls.toList.countP Call.isPoll = 0 := rfl
  rw [unasked, Nat.zero_add] at polled
  exact polled.trans (counted .poll 1 rfl)

/-- A timer to which nothing is written after some of the ticks counts the cycles of the others. -/
private theorem count_timer_regularTicks {first second : List Operation}
    (cut : regularTicks gap count = first ++ second) {timer : Timer}
    (unwritten : ∀ moment ∈ (console.run first).history second, moment.written? timer = none) :
    ((console.run (regularTicks gap count)).machine.timers.count timer).toNat =
      ((console.run first).machine.timers.count timer).toNat -
        (count / (16 ⌈/⌉ gap) - first.length / (16 ⌈/⌉ gap)) := by
  obtain ⟨within, ticks⟩ := regularTicks_prefix cut
  have total := (count_run_regularTicks regular forward bound goes).2 .cycle 16 rfl
  have part := (count_run_regularTicks regular forward bound fun earlier before =>
    goes earlier (Nat.le_trans before within)).2 .cycle 16 rfl
  rw [← ticks] at part
  rw [cut, activities_append, List.count_append, part] at total
  have others : ((console.run first).activities second).count .cycle =
      count / (16 ⌈/⌉ gap) - first.length / (16 ⌈/⌉ gap) := Nat.eq_sub_of_add_eq' total
  rw [cut, run_append, ← others]
  exact ((console.run first).chain_history second).count_of_unwritten unwritten

end Ticking

/-- A program that is ticked at the multiples of a gap from its start on, and never stopped or held,
is polled at every tick and gets a step or a timer cycle whenever the gaps since the last one cover
its period, whatever it does. The host hears of the polls. Each of the steps completes an
instruction or waits for a key, and each of the cycles is counted by a timer that is not written
to. -/
theorem count_regularTicks (standard : console.schedule.reset = .initial) (program : List UInt8)
    (dialect : Dialect) (forward : 0 < gap) (bound : gap ≤ 2 ^ 32 - 16) {count : Nat}
    (goes : ∀ ticks ≤ count,
      ((console.load program dialect).run (regularTicks gap ticks)).isRunning = true ∧
        ((console.load program dialect).run (regularTicks gap ticks)).isPaused = false) :
    let loaded := console.load program dialect
    let ticks := regularTicks gap count
    let final := loaded.run ticks
    Chain loaded.state (loaded.history ticks) final.state ∧
      (loaded.activities ticks).count .poll = count ∧
      (loaded.activities ticks).count .step = count / (2 ⌈/⌉ gap) ∧
      (loaded.activities ticks).count .cycle = count / (16 ⌈/⌉ gap) ∧
      (loaded.calls ticks).countP Call.isPoll = count ∧
      final.machine.cycles + (loaded.history ticks).countP Moment.waits = count / (2 ⌈/⌉ gap) ∧
      ∀ timer first second, ticks = first ++ second →
        (∀ moment ∈ (loaded.run first).history second, moment.written? timer = none) →
          (final.machine.timers.count timer).toNat =
            ((loaded.run first).machine.timers.count timer).toNat -
              (count / (16 ⌈/⌉ gap) - first.length / (16 ⌈/⌉ gap)) := by
  intro loaded ticks final
  have regular : loaded.schedule.Regular gap 0 := by
    have schedule : loaded.schedule = .initial := standard
    rw [schedule]
    exact Schedule.regular_initial gap
  obtain ⟨-, counted⟩ := count_run_regularTicks regular forward bound goes
  have chain := loaded.chain_history ticks
  have noLoad : ∀ moment ∈ loaded.history ticks, moment.activity.isLoad = false :=
    fun _ => isLoad_of_mem_history fun _ => isLoad_of_mem_regularTicks
  obtain ⟨-, completed⟩ := chain.cycles_of_running noLoad (goes count (Nat.le_refl _)).1
  have fresh : loaded.state.1.cycles = 0 := by
    have machine := console.machine_load program dialect
    exact congrArg Machine.cycles machine
  have every : count / (1 ⌈/⌉ gap) = count := by
    rw [Nat.ceilDiv_eq_add_pred_div, Nat.add_sub_cancel_left, Nat.div_self forward, Nat.div_one]
  refine ⟨chain, (counted .poll 1 rfl).trans every, counted .step 2 rfl, counted .cycle 16 rfl,
    (countP_calls_regularTicks regular forward bound goes).trans every, ?_, ?_⟩
  · rw [fresh, Nat.zero_add] at completed
    exact completed.trans (counted .step 2 rfl)
  · intro timer first second cut unwritten
    exact count_timer_regularTicks regular forward bound goes cut unwritten

/-- A program that sets the delay timer and then asks for a key. -/
def delaying : List UInt8 := [0x60, 0x05, 0xF0, 0x15, 0xF1, 0x0A]

/-- The machine some way into that program, with the count in a register. -/
def delayed (x : VIndex) (pc : Address) (delay : UInt8) (mode : Mode) (cycles : Nat) : Machine :=
  let fresh := Machine.fresh delaying {} .zeros
  { fresh with
    registers := { fresh.registers.set x 5 with pc }
    timers := { delay, sound := 0 }
    mode
    cycles }

/-- The standard cadences, when all of them fired at a time. -/
def firedAt (now : UInt32) : Schedule := ⟨⟨2, now⟩, ⟨16, now⟩, ⟨1, now⟩⟩

private theorem pollInput_silent (machine : Machine) :
    machine.pollInput Silent.silent = (machine, .silent) := by
  simp only [Machine.pollInput, Host.poll, Input.idle, Machine.heed, Machine.isPaused,
    Bool.not_false, Bool.and_true]

/-- A tick after sixteen milliseconds goes through all of its stages. -/
private theorem tickAt_firedAt {machine after final : Machine} {last now : UInt32}
    (passed : now - last = 16) (running : machine.isRunning = true)
    (free : machine.isPaused = false) (stepped : machine.step Silent.silent = (after, .silent))
    (goesOn : after.isRunning = true) (ticked : after.tickTimers Silent.silent = (final, .silent)) :
    let console : Console Silent := ⟨machine, firedAt last, .silent⟩
    console.tickAt now = ⟨final, firedAt now, .silent⟩ ∧
      console.moments (.tickAt now) =
        [⟨.poll, machine, .silent⟩, ⟨.step, machine, .silent⟩, ⟨.cycle, after, .silent⟩] := by
  have due (period : UInt32) (short : period ≤ 16) :
      (⟨period, last⟩ : Cadence).isDue now = true := by
    rw [Cadence.isDue, passed, decide_eq_true short]
  have poll := due 1 (by decide)
  have step := due 2 (by decide)
  have cycle := due 16 (by decide)
  constructor
  · simp only [tickAt, whenRunning, pollStage, cpuStage, timerStage, firedAt, Cadence.fire, poll,
      step, cycle, act, if_true, pollInput_silent, isRunning, isPaused, running, free, stepped,
      goesOn, ticked, Bool.false_eq_true, if_false]
  · simp only [moments, momentIf, moment, whenRunning, pollStage, cpuStage, firedAt, Cadence.fire,
      poll, step, cycle, act, if_true, pollInput_silent, isRunning, isPaused, running, free,
      stepped, goesOn, Bool.false_eq_true, if_false, Bool.not_false, Bool.and_true,
      List.cons_append, List.nil_append]

private theorem step_setByte :
    (Machine.fresh delaying {} .zeros).step Silent.silent =
      (delayed 0 0x202 0 .running 1, .silent) := by
  have fetched : (Machine.fresh delaying {} .zeros).instructionAt 0x200 = .ok (.setByte 0 5) :=
    Machine.instructionAt_of_holding rfl (by decide) (by decide)
  exact Machine.step_of_done rfl fetched rfl

private theorem step_setDelay :
    (delayed 0 0x202 0 .running 1).step Silent.silent = (delayed 0 0x204 5 .running 2, .silent) := by
  have fetched : (delayed 0 0x202 0 .running 1).instructionAt 0x202 = .ok (.setDelay 0) :=
    Machine.instructionAt_of_holding rfl (by decide) (by decide)
  exact Machine.step_of_done rfl fetched rfl

private theorem instructionAt_delayed :
    (delayed 0 0x204 4 .running 2).instructionAt 0x204 = .ok (.waitKey 1) :=
  Machine.instructionAt_of_holding rfl (by decide) (by decide)

private theorem step_waitKey :
    (delayed 0 0x204 4 .running 2).step Silent.silent =
      (delayed 0 0x204 4 (.waitingForKey 1) 2, .silent) :=
  Machine.step_of_done rfl instructionAt_delayed rfl

private theorem tickAt_setByte :
    (⟨.fresh delaying {} .zeros, firedAt 0, .silent⟩ : Console Silent).tickAt 16 =
      ⟨delayed 0 0x202 0 .running 1, firedAt 16, .silent⟩ :=
  (tickAt_firedAt (by decide) rfl rfl step_setByte rfl rfl).1

private theorem tickAt_setDelay :
    (⟨delayed 0 0x202 0 .running 1, firedAt 16, .silent⟩ : Console Silent).tickAt 32 =
      ⟨delayed 0 0x204 4 .running 2, firedAt 32, .silent⟩ :=
  (tickAt_firedAt (by decide) rfl rfl step_setDelay rfl rfl).1

private theorem tickAt_waitKey :
    (⟨delayed 0 0x204 4 .running 2, firedAt 32, .silent⟩ : Console Silent).tickAt 48 =
      ⟨delayed 0 0x204 3 (.waitingForKey 1) 2, firedAt 48, .silent⟩ :=
  (tickAt_firedAt (by decide) rfl rfl step_waitKey rfl rfl).1

/-- Three ticks of that program in a row: its two instructions, and the wait for a key. -/
private theorem run_delaying {loaded : Console Silent}
    (fresh : loaded = ⟨.fresh delaying {} .zeros, firedAt 0, .silent⟩) :
    loaded.run (regularTicks 16 1) = ⟨delayed 0 0x202 0 .running 1, firedAt 16, .silent⟩ ∧
      loaded.run (regularTicks 16 2) = ⟨delayed 0 0x204 4 .running 2, firedAt 32, .silent⟩ ∧
      loaded.run (regularTicks 16 3) =
        ⟨delayed 0 0x204 3 (.waitingForKey 1) 2, firedAt 48, .silent⟩ := by
  have one : regularTicks 16 1 = [.tickAt 16] := by decide
  have two : regularTicks 16 2 = [.tickAt 16, .tickAt 32] := by decide
  have three : regularTicks 16 3 = [.tickAt 16, .tickAt 32, .tickAt 48] := by decide
  simp only [one, two, three, fresh, run_cons, run_nil, perform, tickAt_setByte, tickAt_setDelay,
    tickAt_waitKey, and_self]

/-- The last of these ticks writes nothing to the delay timer. -/
private theorem unwritten_delaying :
    ∀ moment ∈ (⟨delayed 0 0x204 4 .running 2, firedAt 32, .silent⟩ : Console Silent).history
      [.tickAt 48], moment.written? .delay = none := by
  have third :=
    (tickAt_firedAt (by decide : (48 : UInt32) - 32 = 16) rfl rfl step_waitKey rfl rfl).2
  have waits : (delayed 0 0x204 4 .running 2).completes? Silent.silent = none :=
    Machine.completes?_of_done rfl instructionAt_delayed rfl
  intro moment member
  rcases List.mem_append.mp member with here | later
  · rw [third] at here
    rcases List.mem_cons.mp here with rfl | here
    · rfl
    · rcases List.mem_cons.mp here with rfl | here
      · simp only [Moment.written?, Moment.completed?, waits, Option.bind_none, Option.map_none]
      · rw [List.mem_singleton.mp here]
        rfl
  · exact absurd later List.not_mem_nil

/-- Three ticks sixteen milliseconds apart poll, step and cycle three times each. The third step
finds no key, and the third cycle counts the delay timer from four down to three. -/
theorem count_regularTicks_delaying :
    (Console.new Silent.silent .zeros).schedule.reset = .initial ∧
      ∃ loaded, loaded = (Console.new Silent.silent .zeros).load delaying {} ∧
        (∀ ticks ≤ 3, (loaded.run (regularTicks 16 ticks)).isRunning = true ∧
          (loaded.run (regularTicks 16 ticks)).isPaused = false) ∧
        (loaded.activities (regularTicks 16 3)).count .step = 3 ∧
        (loaded.activities (regularTicks 16 3)).count .cycle = 3 ∧
        (loaded.calls (regularTicks 16 3)).countP Call.isPoll = 3 ∧
        (loaded.history (regularTicks 16 3)).countP Moment.waits = 1 ∧
        ((loaded.run (regularTicks 16 2)).machine.timers.count .delay).toNat = 4 ∧
        ((loaded.run (regularTicks 16 3)).machine.timers.count .delay).toNat = 4 - 1 := by
  have standard : (Console.new Silent.silent .zeros).schedule.reset = .initial := by decide
  have fresh : (Console.new Silent.silent .zeros).load delaying {} =
      ⟨.fresh delaying {} .zeros, firedAt 0, .silent⟩ :=
    load_live Silent.silent .zeros [] delaying {}
  obtain ⟨one, two, three⟩ := run_delaying fresh
  have goes : ∀ ticks ≤ 3,
      (((Console.new Silent.silent .zeros).load delaying {}).run
          (regularTicks 16 ticks)).isRunning = true ∧
        (((Console.new Silent.silent .zeros).load delaying {}).run
          (regularTicks 16 ticks)).isPaused = false := by
    intro ticks within
    match ticks, within with
    | 0, _ => rw [fresh]; exact ⟨rfl, rfl⟩
    | 1, _ => rw [one]; exact ⟨rfl, rfl⟩
    | 2, _ => rw [two]; exact ⟨rfl, rfl⟩
    | 3, _ => rw [three]; exact ⟨rfl, rfl⟩
  obtain ⟨-, -, steps, cycles, polls, completed, counts⟩ :=
    count_regularTicks standard delaying {} (by decide) (by decide) goes
  have single : 2 ⌈/⌉ 16 = 1 := by decide
  have whole : 16 ⌈/⌉ 16 = 1 := by decide
  rw [single] at steps completed
  rw [whole] at cycles counts
  have waits := completed
  rw [three] at waits
  have before : ((((Console.new Silent.silent .zeros).load delaying {}).run
      (regularTicks 16 2)).machine.timers.count .delay).toNat = 4 := by
    rw [two]
    rfl
  have cut : regularTicks 16 3 = regularTicks 16 2 ++ [.tickAt 48] := by decide
  have unwritten := unwritten_delaying
  rw [← two] at unwritten
  have delay := counts .delay _ _ cut unwritten
  rw [before] at delay
  exact ⟨standard, _, rfl, goes, steps, cycles, polls, Nat.add_left_cancel waits, before, delay⟩

end Console

end Chip8
