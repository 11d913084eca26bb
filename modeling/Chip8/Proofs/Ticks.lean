import Chip8.Host.Scripted
import Chip8.Proofs.Loading
import Chip8.Proofs.TickOrder

/-! # What a tick comes to

A tick that leaves a program running has gone through all of its stages, and what each of them came
to can be told from the cadences before the tick and from the pause that the tick leaves behind:
`activities_tickAt` and `schedule_tickAt`. Whatever was due has fired then, so nothing is due at the
same time again: `tickAt_tickAt`.
-/

namespace Chip8

universe u

variable {η : Type u}

namespace Machine

/-- No instruction holds or releases the processor. -/
theorem isPaused_step [Host η] (machine : Machine) (host : η) :
    (machine.step host).1.isPaused = machine.isPaused := by
  have stepped := machine.step_stepped host
  generalize machine.step host = result at stepped ⊢
  cases stepped with
  | waited => rfl
  | resumed => rfl
  | unfetched => rfl
  | @refused instruction => cases instruction <;> rfl
  | @completed instruction flow active fetched done =>
    have status := (machine.execute_untouched host instruction).status
    have kept : (machine.execute host instruction).machine.isPaused = machine.isPaused := by
      rw [isPaused, status]
      rfl
    cases flow <;> exact kept

private theorem isPaused_tickTimers [Host η] (machine : Machine) (host : η) :
    (machine.tickTimers host).1.isPaused = machine.isPaused := by
  rw [tickTimers_machine]
  rfl

end Machine

namespace Cadence

theorem fire_of_early {cadence : Cadence} {now : UInt32} (early : cadence.isDue now = false) :
    cadence.fire now = (false, cadence) := by
  rw [fire, early]
  rfl

/-- A cadence is not due at the time at which it was just asked. -/
theorem isDue_fire {cadence : Cadence} (positive : 0 < cadence.period) (now : UInt32) :
    (cadence.fire now).2.isDue now = false := by
  cases due : cadence.isDue now with
  | false => rwa [fire_of_early due]
  | true =>
    rw [fire, if_pos due, isDue, UInt32.sub_self, decide_eq_false_iff_not]
    exact UInt32.not_le.mpr positive

end Cadence

/-- The periods of a schedule that starts over as the initial one. -/
theorem Schedule.periods {schedule : Schedule} (standard : schedule.reset = .initial) :
    schedule.cpu.period = 2 ∧ schedule.timers.period = 16 ∧ schedule.input.period = 1 :=
  ⟨congrArg (·.cpu.period) standard, congrArg (·.timers.period) standard,
    congrArg (·.input.period) standard⟩

namespace Console

section Stages

variable [Host η] (now : UInt32) (console : Console η)

private theorem isPaused_cpuStage : (cpuStage now console).isPaused = console.isPaused := by
  simp only [cpuStage, act]
  split
  · rfl
  · split
    · exact console.machine.isPaused_step console.host
    · rfl

private theorem isPaused_timerStage : (timerStage now console).isPaused = console.isPaused := by
  simp only [timerStage, act]
  split
  · exact console.machine.isPaused_tickTimers console.host
  · rfl

variable {now console}

private theorem pollStage_of_early (early : console.schedule.input.isDue now = false) :
    pollStage now console = console := by
  simp only [pollStage, Cadence.fire_of_early early]
  rfl

/-- A processor that is held, or not due, is left alone. -/
theorem cpuStage_of_idle
    (idle : console.isPaused = true ∨ console.schedule.cpu.isDue now = false) :
    cpuStage now console = console := by
  rcases idle with paused | early
  · simp only [cpuStage, paused, if_true]
  · simp only [cpuStage, Cadence.fire_of_early early, Bool.false_eq_true, if_false, ite_self]

private theorem timerStage_of_early (early : console.schedule.timers.isDue now = false) :
    timerStage now console = console := by
  simp only [timerStage, Cadence.fire_of_early early]
  rfl

end Stages

section Running

variable [Host η] {console : Console η} {now : UInt32}

omit [Host η] in
/-- What is done only while a program runs starts none. -/
theorem isRunning_of_whenRunning {action : Console η → Console η}
    (running : (console.whenRunning action).isRunning = true) : console.isRunning = true := by
  cases before : console.isRunning with
  | true => rfl
  | false =>
    rw [whenRunning_of_halted before, before] at running
    contradiction

/-- A tick after which a program runs has found it running before each of its stages. -/
theorem stages_of_running (running : (console.tickAt now).isRunning = true) :
    console.isRunning = true ∧ (pollStage now console).isRunning = true ∧
      (cpuStage now (pollStage now console)).isRunning = true ∧
      console.tickAt now = timerStage now (cpuStage now (pollStage now console)) := by
  rw [tickAt] at running ⊢
  have stepped := isRunning_of_whenRunning running
  have polled := isRunning_of_whenRunning stepped
  have before := isRunning_of_whenRunning polled
  rw [whenRunning_of_running before] at polled stepped ⊢
  rw [whenRunning_of_running polled] at stepped ⊢
  rw [whenRunning_of_running stepped]
  exact ⟨before, polled, stepped, rfl⟩

/-- Only the poll of a tick can hold or release the processor. -/
theorem isPaused_tickAt (running : (console.tickAt now).isRunning = true) :
    (console.tickAt now).isPaused = (pollStage now console).isPaused := by
  obtain ⟨-, -, -, ticked⟩ := stages_of_running running
  rw [ticked, isPaused_timerStage, isPaused_cpuStage]

/-- A tick asks every cadence, but for that of a processor that is held. -/
theorem schedule_tickAt (running : (console.tickAt now).isRunning = true) :
    (console.tickAt now).schedule =
      { cpu := if (console.tickAt now).isPaused then console.schedule.cpu
          else (console.schedule.cpu.fire now).2
        timers := (console.schedule.timers.fire now).2
        input := (console.schedule.input.fire now).2 } := by
  obtain ⟨-, -, -, ticked⟩ := stages_of_running running
  rw [isPaused_tickAt running, ticked, schedule_timerStage, schedule_cpuStage, schedule_pollStage]

omit [Host η] in
private theorem activities_momentIf (running : console.isRunning = true) (due : Bool)
    (activity : Activity) :
    (console.momentIf due activity).map Moment.activity = if due then [activity] else [] := by
  simp only [momentIf, running, Bool.true_and]
  split <;> rfl

/-- What a tick comes to, as the cadences before it and the pause behind it tell. -/
theorem activities_tickAt (running : (console.tickAt now).isRunning = true) :
    (console.moments (.tickAt now)).map Moment.activity =
      (if console.schedule.input.isDue now then [.poll] else []) ++
        (if !(console.tickAt now).isPaused && console.schedule.cpu.isDue now then [.step]
          else []) ++
        (if console.schedule.timers.isDue now then [.cycle] else []) := by
  obtain ⟨before, polled, stepped, -⟩ := stages_of_running running
  rw [isPaused_tickAt running]
  simp only [moments, List.map_append, whenRunning_of_running before,
    whenRunning_of_running polled, activities_momentIf before, activities_momentIf polled,
    activities_momentIf stepped, schedule_cpuStage, schedule_pollStage]

end Running

/-- Nothing is due at a time. -/
structure Settled (console : Console η) (now : UInt32) : Prop where
  input : console.schedule.input.isDue now = false
  cpu : console.isPaused = true ∨ console.schedule.cpu.isDue now = false
  timers : console.schedule.timers.isDue now = false

section Settling

variable [Host η] {console : Console η} {now : UInt32}

private theorem tickAt_of_settled (settled : console.isRunning = true → console.Settled now) :
    console.tickAt now = console := by
  cases running : console.isRunning with
  | false => exact tickAt_of_halted running now
  | true =>
    obtain ⟨input, cpu, timers⟩ := settled running
    rw [tickAt, whenRunning_of_running running, pollStage_of_early input,
      whenRunning_of_running running, cpuStage_of_idle cpu, whenRunning_of_running running,
      timerStage_of_early timers]

/-- A tick settles whatever is due. -/
theorem settled_tickAt (standard : console.schedule.reset = .initial)
    (running : (console.tickAt now).isRunning = true) : (console.tickAt now).Settled now := by
  obtain ⟨cpu, timers, input⟩ := Schedule.periods standard
  have schedule := schedule_tickAt running
  refine ⟨?_, ?_, ?_⟩
  · rw [schedule]
    exact Cadence.isDue_fire (by rw [input]; decide) now
  · cases paused : (console.tickAt now).isPaused with
    | true => exact .inl rfl
    | false =>
      rw [paused] at schedule
      rw [schedule]
      exact .inr (Cadence.isDue_fire (by rw [cpu]; decide) now)
  · rw [schedule]
    exact Cadence.isDue_fire (by rw [timers]; decide) now

end Settling

/-- A second tick at the same time changes nothing, the calls to the host included, whatever the
console was doing before the first one and whatever the host has answered to it. -/
theorem tickAt_tickAt [Host η] {console : Console (Recorded η)}
    (standard : console.schedule.reset = .initial) (now : UInt32) :
    (console.tickAt now).tickAt now = console.tickAt now :=
  tickAt_of_settled fun running => settled_tickAt standard running

/-- A console with a screen to clear, on a host that holds the processor when it is asked for the
first time and releases it when it is asked again. -/
def pausing : Console (Recorded (Scripted Silent)) where
  machine := { Machine.initial .zeros with
    status := { running := true, clearDisplay := true }, timers := { delay := 1, sound := 7 } }
  schedule := .initial
  host := ⟨⟨.silent, [{ paused := some true }, { paused := some false }]⟩, #[]⟩

/-- The poll that would release the processor does not come at the same time. -/
theorem tickAt_tickAt_pausing :
    pausing.schedule.reset = .initial ∧
      (pausing.tickAt 500).tickAt 500 = pausing.tickAt 500 ∧
      ((pausing.tickAt 500).tickAt 500).isPaused = true := by
  have standard : pausing.schedule.reset = .initial := by decide
  have same := tickAt_tickAt standard 500
  refine ⟨standard, same, ?_⟩
  rw [same]
  rfl

end Console

end Chip8
