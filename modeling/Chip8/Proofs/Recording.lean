import Chip8.Host.Recorded
import Chip8.Proofs.Simulation
import Chip8.Proofs.Transition

/-! # Runs over different hosts

A machine learns of its host through answers only. Where the states of one host can be viewed as
those of another such that every call answers alike, a run over the first is a run over the second.
A recorded host is viewed as the host below it in such a way, so recording a run changes nothing
about it: `run_unrecorded`. The `calls` of a run over any host are what a recording of it has noted.
-/

namespace Chip8

universe u v

variable {η : Type u} {θ : Type v} [Host η] [Host θ] {view : η → θ}

/-- A view of the states of a host that no call can tell from them. -/
structure Host.Respects (view : η → θ) : Prop where
  drawPixel : ∀ host x y,
    Host.drawPixel (view host) x y =
      ((Host.drawPixel host x y).1, view (Host.drawPixel host x y).2)
  screen : ∀ host signal, Host.screen (view host) signal = view (Host.screen host signal)
  poll : ∀ host offered,
    Host.poll (view host) offered = ((Host.poll host offered).1, view (Host.poll host offered).2)
  sound : ∀ host active, Host.sound (view host) active = view (Host.sound host active)
  reportFault : ∀ host fault,
    Host.reportFault (view host) fault = view (Host.reportFault host fault)

private theorem Recorded.respects : Host.Respects (Recorded.host : Recorded η → η) where
  drawPixel _ _ _ := rfl
  screen _ _ := rfl
  poll _ _ := rfl
  sound _ _ := rfl
  reportFault _ _ := rfl

namespace Host.Respects

variable (respects : Host.Respects view)
include respects

private theorem plot (host : η) (points : List (Nat × Nat)) :
    Sprite.plot (view host) points =
      ((Sprite.plot host points).1, view (Sprite.plot host points).2) := by
  induction points generalizing host with
  | nil => rfl
  | cons point rest ih => simp only [Sprite.plot, respects.drawPixel, ih]

private theorem execute (machine : Machine) (host : η) (instruction : Instruction) :
    machine.execute (view host) instruction =
      ⟨(machine.execute host instruction).machine, view (machine.execute host instruction).host,
        (machine.execute host instruction).outcome⟩ := by
  by_cases draws : ∃ x y rows, instruction = .draw x y rows
  · obtain ⟨x, y, rows, rfl⟩ := draws
    cases read : machine.memory.readRange machine.registers.i.toNat rows.val with
    | error refusal => simp only [Machine.execute, Machine.drawSprite_of_error read]
    | ok sprite =>
      simp only [Machine.execute, Machine.drawSprite_of_read read rfl, respects.plot,
        respects.screen]
  · have other (x y : VIndex) (rows : RowCount) : instruction ≠ .draw x y rows :=
      fun same => draws ⟨x, y, rows, same⟩
    rw [machine.execute_of_not_draw other (view host) host,
      machine.execute_of_not_draw other host host]

private theorem halt (machine : Machine) (host : η) (fault : Fault) :
    machine.halt (view host) fault =
      ((machine.halt host fault).1, view (machine.halt host fault).2) := by
  simp only [Machine.halt, respects.reportFault]

private theorem attempt (machine : Machine) (host : η) :
    machine.attempt (view host) =
      ((machine.attempt host).1, view (machine.attempt host).2.1, (machine.attempt host).2.2) := by
  simp only [Machine.attempt, respects.execute]
  split
  · split <;> rfl
  · split
    · rfl
    · split <;> rfl

private theorem step (machine : Machine) (host : η) :
    machine.step (view host) = ((machine.step host).1, view (machine.step host).2) := by
  rcases attempted : machine.attempt host with ⟨after, told, _ | fault⟩
  · simp only [Machine.step, respects.attempt, attempted]
  · simp only [Machine.step, respects.attempt, attempted, respects.halt]

private theorem pollInput (machine : Machine) (host : η) :
    machine.pollInput (view host) =
      ((machine.pollInput host).1, view (machine.pollInput host).2) := by
  simp only [Machine.pollInput, respects.poll]
  split
  · simp only [Machine.press]
    split
    · rfl
    · exact respects.halt ..
  · rfl

private theorem tickTimers (machine : Machine) (host : η) :
    machine.tickTimers (view host) =
      ((machine.tickTimers host).1, view (machine.tickTimers host).2) := by
  have sounded : machine.tickSound (view host) =
      ((machine.tickSound host).1, view (machine.tickSound host).2) := by
    simp only [Machine.tickSound]
    split
    · rw [respects.sound]
    · rfl
  simp only [Machine.tickTimers, sounded, Machine.flushClear]
  split
  · rw [respects.screen]
  · rfl

private theorem load (machine : Machine) (host : η) (program : List UInt8) (dialect : Dialect) :
    machine.load (view host) program dialect =
      ((machine.load host program dialect).1, view (machine.load host program dialect).2) := by
  simp only [Machine.load]
  split
  · rfl
  · exact respects.halt ..

/-- A machine over a host goes along with the same machine over the host as it is viewed. -/
theorem simulation : Simulation (Machine.step : Processor η) (Machine.step : Processor θ)
    fun real viewed => viewed = (real.1, view real.2) where
  running := by
    rintro _ _ rfl
    rfl
  paused := by
    rintro _ _ rfl
    rfl
  load := by
    rintro machine host _ _ program dialect same
    cases same
    exact respects.load machine host program dialect
  poll := by
    rintro machine host _ _ same
    cases same
    exact respects.pollInput machine host
  step := by
    rintro machine host _ _ same
    cases same
    exact respects.step machine host
  cycle := by
    rintro machine host _ _ same
    cases same
    exact respects.tickTimers machine host
  pause := by
    rintro machine host _ _ paused same
    cases same
    rfl
  stop := by
    rintro machine host _ _ same
    cases same
    rfl

end Host.Respects

namespace Console

/-- The same console as its host is viewed. -/
def viewed (view : η → θ) (console : Console η) : Console θ :=
  ⟨console.machine, console.schedule, view console.host⟩

/-- A run over a viewed host is the run over the host, viewed. -/
theorem viewed_run (respects : Host.Respects view) (console : Console η)
    (operations : List Operation) :
    (console.run operations).viewed view = (console.viewed view).run operations := by
  have related : Related (fun real viewed => viewed = (real.1, view real.2)) console
      (console.viewed view) := ⟨rfl, rfl⟩
  obtain ⟨schedule, state⟩ := respects.simulation.run operations related
  rw [runBy_step, runBy_step] at schedule state
  exact eq_of_state schedule state.symm

/-- Recording the calls to a host changes nothing about a run. -/
theorem run_unrecorded (console : Console (Recorded η)) (operations : List Operation) :
    (console.run operations).viewed Recorded.host =
      (console.viewed Recorded.host).run operations :=
  viewed_run Recorded.respects console operations

/-- The same console, with the calls to its host recorded from here on. -/
def recorded (console : Console η) : Console (Recorded η) :=
  ⟨console.machine, console.schedule, { host := console.host }⟩

/-- The calls that a run makes to its host. -/
def calls (console : Console η) (operations : List Operation) : List Call :=
  (console.recorded.run operations).host.calls.toList

theorem machine_run_recorded (console : Console η) (operations : List Operation) :
    (console.recorded.run operations).machine = (console.run operations).machine :=
  congrArg Console.machine (run_unrecorded console.recorded operations)

end Console

end Chip8
