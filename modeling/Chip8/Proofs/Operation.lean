import Chip8.Console

/-! # Runs of a console

What the owner of a console can ask of it, as data, and what a list of such requests does. Ticks
carry the time that the clock shows, so a tick by the clock is one of them. Which activities a tick
comes to depends on the schedule, on a pause and on the host; `Invariant.run` lifts whatever the
activities keep, one by one, to every list of requests.
-/

namespace Chip8

universe u

variable {η : Type u}

inductive Operation where
  | load (program : List UInt8) (dialect : Dialect)
  | tickAt (now : UInt32)
  | step
  | tickTimers
  | pause (paused : Bool)
  | stop
deriving DecidableEq, Repr

def Operation.isLoad : Operation → Bool
  | .load .. => true
  | _ => false

namespace Console

/-- The machine and its host, without the schedule. -/
def state (console : Console η) : Machine × η := (console.machine, console.host)

theorem host_of_state {console : Console η} {state : Machine × η}
    (same : console.state = state) : console.host = state.2 := congrArg Prod.snd same

def perform [Host η] (console : Console η) : Operation → Console η
  | .load program dialect => console.load program dialect
  | .tickAt now => console.tickAt now
  | .step => console.step
  | .tickTimers => console.tickTimers
  | .pause paused => console.pause paused
  | .stop => console.stop

def run [Host η] (console : Console η) (operations : List Operation) : Console η :=
  operations.foldl perform console

@[simp] theorem run_nil [Host η] (console : Console η) : console.run [] = console := rfl

@[simp] theorem run_cons [Host η] (console : Console η) (operation : Operation)
    (rest : List Operation) :
    console.run (operation :: rest) = (console.perform operation).run rest := rfl

/-- A run can be cut between any two requests. -/
theorem run_append [Host η] (console : Console η) (first second : List Operation) :
    console.run (first ++ second) = (console.run first).run second :=
  List.foldl_append

/-- A part that an action keeps is kept if it is done only while a program runs. -/
theorem whenRunning_keeps {α : Type} (part : Console η → α) {console : Console η}
    {action : Console η → Console η} (kept : part (action console) = part console) :
    part (console.whenRunning action) = part console := by
  unfold whenRunning
  split
  · exact kept
  · rfl

/-- While a program runs, an action finds the machine and the host as they are. -/
theorem state_whenRunning {console : Console η} {state : Machine × η}
    (before : console.state = state) (running : state.1.isRunning = true)
    (action : Machine → η → Machine × η) :
    (console.whenRunning (·.act action)).state = action state.1 state.2 := by
  subst before
  exact congrArg Console.state (if_pos running)

theorem state_load [Host η] (console : Console η) (program : List UInt8) (dialect : Dialect) :
    (console.load program dialect).state =
      console.machine.load console.host program dialect := rfl

theorem state_step [Host η] {console : Console η} {state : Machine × η}
    (before : console.state = state) (running : state.1.isRunning = true) :
    console.step.state = state.1.step state.2 := state_whenRunning before running Machine.step

theorem state_tickTimers [Host η] {console : Console η} {state : Machine × η}
    (before : console.state = state) (running : state.1.isRunning = true) :
    console.tickTimers.state = state.1.tickTimers state.2 :=
  state_whenRunning before running Machine.tickTimers

theorem state_pollStage [Host η] (now : UInt32) (console : Console η) :
    (pollStage now console).state =
      if console.schedule.input.isDue now then console.machine.pollInput console.host
      else console.state := by
  simp only [pollStage, Cadence.fire_fst]
  split <;> rfl

/-- A pause holds the processor, whether it is due or not. -/
theorem state_cpuStage [Host η] (now : UInt32) (console : Console η) :
    (cpuStage now console).state =
      if !console.isPaused && console.schedule.cpu.isDue now then
        console.machine.step console.host
      else console.state := by
  simp only [cpuStage, Cadence.fire_fst]
  cases console.isPaused
  · simp only [Bool.false_eq_true, if_false, Bool.not_false, Bool.true_and]
    split <;> rfl
  · rfl

theorem state_timerStage [Host η] (now : UInt32) (console : Console η) :
    (timerStage now console).state =
      if console.schedule.timers.isDue now then console.machine.tickTimers console.host
      else console.state := by
  simp only [timerStage, Cadence.fire_fst]
  split <;> rfl

theorem schedule_pollStage [Host η] (now : UInt32) (console : Console η) :
    (pollStage now console).schedule =
      { console.schedule with input := (console.schedule.input.fire now).2 } := by
  simp only [pollStage, act]
  split <;> rfl

theorem schedule_cpuStage [Host η] (now : UInt32) (console : Console η) :
    (cpuStage now console).schedule =
      { console.schedule with
        cpu := if console.isPaused then console.schedule.cpu
          else (console.schedule.cpu.fire now).2 } := by
  simp only [cpuStage, act]
  cases console.isPaused
  · simp only [Bool.false_eq_true, if_false]
    split <;> rfl
  · rfl

theorem schedule_timerStage [Host η] (now : UInt32) (console : Console η) :
    (timerStage now console).schedule =
      { console.schedule with timers := (console.schedule.timers.fire now).2 } := by
  simp only [timerStage, act]
  split <;> rfl

end Console

/-- What every activity keeps of a machine and its host. Polls, processor steps and timer cycles
happen only while a program runs. -/
structure Invariant [Host η] (holds : Machine × η → Prop) : Prop where
  poll : ∀ {machine host}, machine.isRunning = true → holds (machine, host) →
    holds (machine.pollInput host)
  step : ∀ {machine host}, machine.isRunning = true → holds (machine, host) →
    holds (machine.step host)
  cycle : ∀ {machine host}, machine.isRunning = true → holds (machine, host) →
    holds (machine.tickTimers host)
  pause : ∀ {machine host} (paused : Bool), holds (machine, host) →
    holds ({ machine with status.paused := paused }, host)
  stop : ∀ {machine host}, holds (machine, host) →
    holds ({ machine with status.running := false }, host)

namespace Invariant

variable [Host η] {holds : Machine × η → Prop}

omit [Host η] in
private theorem whenRunning {console : Console η} {action : Console η → Console η}
    (kept : console.isRunning = true → holds console.state → holds (action console).state)
    (start : holds console.state) : holds (console.whenRunning action).state := by
  unfold Console.whenRunning
  split
  · next running => exact kept running start
  · exact start

private theorem tickAt (invariant : Invariant holds) {console : Console η} (now : UInt32)
    (start : holds console.state) : holds (console.tickAt now).state := by
  refine whenRunning ?_ (whenRunning ?_ (whenRunning ?_ start))
  · intro running before
    rw [Console.state_timerStage]
    split
    · exact invariant.cycle running before
    · exact before
  · intro running before
    rw [Console.state_cpuStage]
    split
    · exact invariant.step running before
    · exact before
  · intro running before
    rw [Console.state_pollStage]
    split
    · exact invariant.poll running before
    · exact before

/-- What the activities keep, every request but a load keeps. -/
theorem perform (invariant : Invariant holds) {console : Console η} {operation : Operation}
    (noLoad : operation.isLoad = false) (start : holds console.state) :
    holds (console.perform operation).state := by
  cases operation with
  | load => contradiction
  | tickAt now => exact invariant.tickAt now start
  | step => exact whenRunning (fun running before => invariant.step running before) start
  | tickTimers => exact whenRunning (fun running before => invariant.cycle running before) start
  | pause paused => exact invariant.pause paused start
  | stop => exact invariant.stop start

/-- What the activities keep holds throughout a run, if the loads in it keep it as well. -/
theorem run (invariant : Invariant holds) {console : Console η} {operations : List Operation}
    (loads : ∀ program dialect, .load program dialect ∈ operations → ∀ {machine host},
      holds (machine, host) → holds (machine.load host program dialect))
    (start : holds console.state) : holds (console.run operations).state := by
  induction operations generalizing console with
  | nil => exact start
  | cons operation rest ih =>
    refine ih (fun program dialect member =>
      loads program dialect (List.mem_cons_of_mem _ member)) ?_
    cases isLoad : operation.isLoad with
    | false => exact invariant.perform isLoad start
    | true =>
      cases operation with
      | load program dialect => exact loads program dialect (List.mem_cons_self ..) start
      | _ => contradiction

end Invariant

end Chip8
