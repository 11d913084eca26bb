import Chip8.Proofs.Operation

/-! # Simulations between consoles

Two consoles may differ in how their processors take a step, in what their machines remember and in
what serves as their hosts. If some relation between their states is kept by every activity, and the
related machines agree on whether they run and on whether they are held, then the schedules come to
the same decisions: the same requests lead related consoles to related consoles. `Simulation.run` is
that result, so what is left to show of a simulation is one statement for each activity.
-/

namespace Chip8

universe u v

variable {η : Type u} {θ : Type v}

/-- What a processor step makes of a machine and its host. -/
abbrev Processor (η : Type u) := Machine → η → Machine × η

namespace Console

/-- The processor stage of a tick with a processor of one's own. -/
def cpuStageBy (cpu : Processor η) (now : UInt32) (console : Console η) : Console η :=
  if console.isPaused then console else
    let (due, cadence) := console.schedule.cpu.fire now
    let console := { console with schedule.cpu := cadence }
    if due then console.act cpu else console

def performBy [Host η] (cpu : Processor η) (console : Console η) : Operation → Console η
  | .tickAt now =>
    ((console.whenRunning (pollStage now)).whenRunning (cpuStageBy cpu now)).whenRunning
      (timerStage now)
  | .step => console.whenRunning (·.act cpu)
  | .load program dialect => console.load program dialect
  | .tickTimers => console.tickTimers
  | .pause paused => console.pause paused
  | .stop => console.stop

def runBy [Host η] (cpu : Processor η) (console : Console η) (operations : List Operation) :
    Console η :=
  operations.foldl (performBy cpu) console

@[simp] theorem runBy_cons [Host η] (cpu : Processor η) (console : Console η)
    (operation : Operation) (rest : List Operation) :
    console.runBy cpu (operation :: rest) = (console.performBy cpu operation).runBy cpu rest := rfl

/-- The processor of the machine itself is one of them. -/
theorem runBy_step [Host η] (console : Console η) (operations : List Operation) :
    console.runBy Machine.step operations = console.run operations := by
  induction operations generalizing console with
  | nil => rfl
  | cons operation rest ih =>
    have same : console.performBy Machine.step operation = console.perform operation := by
      cases operation <;> rfl
    rw [runBy_cons, run_cons, same, ih]

end Console

/-- A console is its schedule and its state. -/
theorem Console.eq_of_state {left right : Console η} (schedule : left.schedule = right.schedule)
    (state : left.state = right.state) : left = right := by
  obtain ⟨machine, cadences, host⟩ := left
  cases schedule
  cases state
  rfl

/-- A relation between the states of two consoles that every activity keeps, the processor steps
being those of two processors. -/
structure Simulation [Host η] [Host θ] (here : Processor η) (there : Processor θ)
    (relates : Machine × η → Machine × θ → Prop) : Prop where
  running : ∀ {left right}, relates left right → left.1.isRunning = right.1.isRunning
  paused : ∀ {left right}, relates left right → left.1.isPaused = right.1.isPaused
  load : ∀ {machine host machine' host'} (program : List UInt8) (dialect : Dialect),
    relates (machine, host) (machine', host') →
      relates (machine.load host program dialect) (machine'.load host' program dialect)
  poll : ∀ {machine host machine' host'}, relates (machine, host) (machine', host') →
    relates (machine.pollInput host) (machine'.pollInput host')
  step : ∀ {machine host machine' host'}, relates (machine, host) (machine', host') →
    relates (here machine host) (there machine' host')
  cycle : ∀ {machine host machine' host'}, relates (machine, host) (machine', host') →
    relates (machine.tickTimers host) (machine'.tickTimers host')
  pause : ∀ {machine host machine' host'} (paused : Bool),
    relates (machine, host) (machine', host') →
      relates ({ machine with status.paused := paused }, host)
        ({ machine' with status.paused := paused }, host')
  stop : ∀ {machine host machine' host'}, relates (machine, host) (machine', host') →
    relates ({ machine with status.running := false }, host)
      ({ machine' with status.running := false }, host')

/-- Consoles in related states that are on the same schedule. -/
structure Related (relates : Machine × η → Machine × θ → Prop) (left : Console η)
    (right : Console θ) : Prop where
  schedule : left.schedule = right.schedule
  state : relates left.state right.state

namespace Simulation

variable [Host η] [Host θ] {here : Processor η} {there : Processor θ}
  {relates : Machine × η → Machine × θ → Prop} {left : Console η} {right : Console θ}

private theorem whenRunning (simulation : Simulation here there relates)
    (act : Console η → Console η) (act' : Console θ → Console θ)
    (kept : Related relates left right → Related relates (act left) (act' right))
    (related : Related relates left right) :
    Related relates (left.whenRunning act) (right.whenRunning act') := by
  have same : left.isRunning = right.isRunning := simulation.running related.state
  simp only [Console.whenRunning, same]
  split
  · exact kept related
  · exact related

private theorem pollStage (simulation : Simulation here there relates) (now : UInt32)
    (related : Related relates left right) :
    Related relates (Console.pollStage now left) (Console.pollStage now right) where
  schedule := by
    simp only [Console.pollStage, related.schedule]
    split <;> simp only [Console.act]
  state := by
    rw [Console.state_pollStage, Console.state_pollStage, related.schedule]
    split
    · exact simulation.poll related.state
    · exact related.state

private theorem cpuStage (simulation : Simulation here there relates) (now : UInt32)
    (related : Related relates left right) :
    Related relates (Console.cpuStageBy here now left) (Console.cpuStageBy there now right) := by
  have same : left.isPaused = right.isPaused := simulation.paused related.state
  simp only [Console.cpuStageBy, same, related.schedule]
  split
  · exact related
  · split
    · exact ⟨rfl, simulation.step related.state⟩
    · exact ⟨rfl, related.state⟩

private theorem timerStage (simulation : Simulation here there relates) (now : UInt32)
    (related : Related relates left right) :
    Related relates (Console.timerStage now left) (Console.timerStage now right) where
  schedule := by
    simp only [Console.timerStage, related.schedule]
    split <;> simp only [Console.act]
  state := by
    rw [Console.state_timerStage, Console.state_timerStage, related.schedule]
    split
    · exact simulation.cycle related.state
    · exact related.state

/-- A request leads related consoles to related consoles. -/
theorem perform (simulation : Simulation here there relates) (operation : Operation)
    (related : Related relates left right) :
    Related relates (left.performBy here operation) (right.performBy there operation) := by
  cases operation with
  | load program dialect =>
    refine ⟨?_, simulation.load program dialect related.state⟩
    simp only [Console.performBy, Console.load, Console.act, related.schedule]
  | tickAt now =>
    have polled := simulation.whenRunning _ _ (simulation.pollStage now) related
    have stepped := simulation.whenRunning _ _ (simulation.cpuStage now) polled
    exact simulation.whenRunning _ _ (simulation.timerStage now) stepped
  | step =>
    have stepped : Related relates (left.act here) (right.act there) :=
      ⟨related.schedule, simulation.step related.state⟩
    exact simulation.whenRunning (·.act here) (·.act there) (fun _ => stepped) related
  | tickTimers =>
    have ticked : Related relates (left.act Machine.tickTimers) (right.act Machine.tickTimers) :=
      ⟨related.schedule, simulation.cycle related.state⟩
    exact simulation.whenRunning (·.act Machine.tickTimers) (·.act Machine.tickTimers)
      (fun _ => ticked) related
  | pause paused => exact ⟨related.schedule, simulation.pause paused related.state⟩
  | stop => exact ⟨related.schedule, simulation.stop related.state⟩

/-- The same requests lead related consoles to related consoles. -/
theorem run (simulation : Simulation here there relates) (operations : List Operation)
    (related : Related relates left right) :
    Related relates (left.runBy here operations) (right.runBy there operations) := by
  induction operations generalizing left right with
  | nil => exact related
  | cons operation rest ih => exact ih (simulation.perform operation related)

end Simulation

end Chip8
