import Chip8.Proofs.History
import Chip8.Proofs.Loading
import Chip8.Proofs.Simulation

/-! # Waiting for a key remembers nothing new

While a program waits for a key, the processor fetches no instruction: the mode of the machine says
which register the key goes to. A processor without that memory would fetch the instruction again at
each step and leave everything as it is while all keys are up. `run_eq_refetching` says that nobody
can tell the two apart, whatever is asked of the console, since nothing between two processor steps
changes the program counter or the word it points to. It also says how such a wait goes on and ends.
-/

namespace Chip8

universe u

variable {η : Type u}

namespace Machine

/-- The same machine with no memory of a wait. -/
def awake (machine : Machine) : Machine := { machine with mode := .running }

/-- One processor step without a memory of waits: an instruction that finds no key leaves everything
as it is, and is fetched again by the next step. -/
def refetch [Host η] (machine : Machine) (host : η) : Machine × η :=
  match machine.instructionAt machine.registers.pc with
  | .error fault => machine.halt host fault
  | .ok instruction =>
    let effect := machine.execute host instruction
    match effect.outcome with
    | .error fault => effect.machine.halt effect.host fault
    | .ok (.waitForKey _) => (machine, host)
    | .ok flow => (effect.machine.follow machine.registers.pc flow, effect.host)

/-- The next instruction asks for a key. -/
def AsksFor (machine : Machine) (x : VIndex) : Prop :=
  machine.instructionAt machine.registers.pc = .ok (.waitKey x)

section Steps

variable [Host η] {machine : Machine} {x : VIndex}

omit [Host η] in
/-- A machine that waits is at the instruction that made it wait. -/
theorem InBounds.asksFor (bounds : machine.InBounds) (waiting : machine.mode = .waitingForKey x) :
    machine.AsksFor x := (bounds.waiting x waiting).2

omit [Host η] in
/-- A wait goes to the register of the instruction. -/
theorem InBounds.mode_cases (bounds : machine.InBounds) (asks : machine.AsksFor x) :
    machine.mode = .running ∨ machine.mode = .waitingForKey x := by
  cases mode : machine.mode with
  | running => exact .inl rfl
  | waitingForKey y =>
    have other : machine.AsksFor y := bounds.asksFor mode
    rw [AsksFor, asks] at other
    cases other
    exact .inr rfl

/-- Without a key the machine waits, whether it did so before or not. -/
theorem step_of_up (bounds : machine.InBounds) (asks : machine.AsksFor x)
    (up : machine.keypad.first? = none) (host : η) :
    machine.step host = ({ machine with mode := .waitingForKey x }, host) := by
  rcases bounds.mode_cases asks with active | waiting
  · rw [AsksFor] at asks
    simp only [step, attempt, active, asks, execute, up, follow]
  · rw [step_of_waited waiting up, ← waiting]

/-- A key that is down goes to the register, whether the machine waited for it or not. -/
theorem step_of_down (bounds : machine.InBounds) (asks : machine.AsksFor x) {key : UInt8}
    (down : machine.keypad.first? = some key) (host : η) :
    machine.step host = (machine.resume x key, host) := by
  rcases bounds.mode_cases asks with active | waiting
  · rw [AsksFor] at asks
    simp only [step, attempt, active, asks, execute, down, follow, resume, withRegisters]
  · exact step_of_resumed waiting down host

private theorem refetch_of_up (asks : machine.AsksFor x) (up : machine.keypad.first? = none)
    (host : η) : machine.refetch host = (machine, host) := by
  rw [AsksFor] at asks
  simp only [refetch, asks, execute, up]

private theorem refetch_of_down (active : machine.mode = .running) (asks : machine.AsksFor x)
    {key : UInt8} (down : machine.keypad.first? = some key) (host : η) :
    machine.refetch host = (machine.resume x key, host) := by
  rw [AsksFor] at asks
  simp only [refetch, asks, execute, down, follow, resume, withRegisters, active]

/-- A step that does not begin with a wait is one of the processor without a memory of waits, which
forgets the wait that the step may have begun. -/
theorem refetch_of_active (active : machine.mode = .running) (host : η) :
    machine.refetch host = ((machine.step host).1.awake, (machine.step host).2) := by
  have stepped := machine.step_stepped host
  generalize machine.step host = result at stepped ⊢
  cases stepped with
  | waited waiting =>
    rw [active] at waiting
    contradiction
  | resumed waiting =>
    rw [active] at waiting
    contradiction
  | unfetched _ missing =>
    simp only [refetch, missing, halt, awake, active]
  | @refused instruction fault _ fetched refuses =>
    have mode : (machine.refused instruction).mode = .running := by
      cases instruction <;> exact active
    simp only [refetch, fetched, execute_of_refuses refuses, halt, awake, mode]
  | @completed instruction flow _ fetched done =>
    have mode := (machine.execute_untouched host instruction).mode.trans active
    have leads := execute_leads done
    simp only [refetch, fetched, done]
    cases flow with
    | waitForKey x =>
      cases leads with
      | waits up =>
        simp only [execute, up, follow, awake, ← active]
    | next => simp only [follow, awake, mode]
    | skip => simp only [follow, awake, mode]
    | jump target => simp only [follow, awake, mode]

/-- One step with the memory of waits is one without it. -/
theorem refetch_awake (bounds : machine.InBounds) (host : η) :
    machine.awake.refetch host = ((machine.step host).1.awake, (machine.step host).2) := by
  cases mode : machine.mode with
  | running =>
    have same : machine.awake = machine := by
      simp only [awake, ← mode]
    rw [same]
    exact refetch_of_active mode host
  | waitingForKey x =>
    have asks : machine.AsksFor x := bounds.asksFor mode
    have asks' : machine.awake.AsksFor x := asks
    cases key : machine.keypad.first? with
    | none =>
      rw [step_of_up bounds asks key, refetch_of_up asks' key]
      rfl
    | some key' =>
      rw [step_of_down bounds asks key, refetch_of_down rfl asks' key]
      rfl

end Steps

/-- Forgetting the wait after each activity is never having remembered it. -/
theorem forgets_wait [Host η] : Simulation (step : Processor η) refetch fun real plain =>
    real.1.InBounds ∧ plain = (real.1.awake, real.2) where
  running := by
    rintro _ _ ⟨-, rfl⟩
    rfl
  paused := by
    rintro _ _ ⟨-, rfl⟩
    rfl
  load := by
    rintro machine host _ _ program dialect ⟨-, same⟩
    cases same
    refine ⟨.load machine host program dialect, ?_⟩
    have fresh : machine.awake.reset dialect = machine.reset dialect := rfl
    simp only [load, fresh]
    split <;> rfl
  poll := by
    rintro machine host _ _ ⟨bounds, same⟩
    cases same
    refine ⟨bounds.pollInput host, ?_⟩
    have held : machine.awake.isPaused = machine.isPaused := rfl
    simp only [pollInput, held]
    split
    · have keypad (input : Input) :
          (machine.awake.heed input).keypad = (machine.heed input).keypad := rfl
      simp only [press, keypad]
      split <;> rfl
    · rfl
  step := by
    rintro machine host _ _ ⟨bounds, same⟩
    cases same
    exact ⟨bounds.step host, refetch_awake bounds host⟩
  cycle := by
    rintro machine host _ _ ⟨bounds, same⟩
    cases same
    refine ⟨bounds.tickTimers host, ?_⟩
    have sounded : machine.awake.tickSound host =
      ((machine.tickSound host).1.awake, (machine.tickSound host).2) := rfl
    have pending : (machine.tickSound host).1.awake.status =
      (machine.tickSound host).1.status := rfl
    simp only [tickTimers, sounded, flushClear, pending]
    split <;> rfl
  pause := by
    rintro machine host _ _ paused ⟨bounds, same⟩
    cases same
    exact ⟨InBounds.invariant.pause paused bounds, rfl⟩
  stop := by
    rintro machine host _ _ ⟨bounds, same⟩
    cases same
    exact ⟨InBounds.invariant.stop bounds, rfl⟩

private theorem Rests.asksFor {before after : Machine} (rests : before.Rests after) {x : VIndex}
    (asks : before.AsksFor x) : after.AsksFor x := by
  simp only [AsksFor, instructionAt, rests.registers, rests.memory]
  exact asks

end Machine

/-- A moment that does not end a wait: no program is loaded, and no processor step finds a key. -/
def Moment.IsQuiet (moment : Moment η) : Prop :=
  moment.activity.isLoad = false ∧
    (moment.activity = .step → ∀ key, moment.machine.keypad.isDown key = false)

private theorem Moment.rests [Host η] {moment : Moment η} {x : VIndex} (quiet : moment.IsQuiet)
    (bounds : moment.machine.InBounds) (asks : moment.machine.AsksFor x) :
    moment.machine.Rests moment.after.1 := by
  obtain ⟨noLoad, up⟩ := quiet
  by_cases stepping : moment.activity = .step
  · have stepped :=
      Machine.step_of_up bounds asks (Keypad.first?_eq_none_iff.mpr (up stepping)) moment.host
    simp only [after, before, Activity.apply, stepping, stepped]
    exact ⟨rfl, rfl, rfl⟩
  · exact moment.rests_of_idle noLoad stepping

/-- A machine that asks for a key rests through quiet moments. -/
theorem Chain.rests [Host η] {start final : Machine × η} {moments : List (Moment η)} {x : VIndex}
    (chain : Chain start moments final) (bounds : start.1.InBounds) (asks : start.1.AsksFor x)
    (quiet : ∀ moment ∈ moments, moment.IsQuiet) :
    start.1.Rests final.1 ∧ final.1.InBounds := by
  induction chain with
  | nil state => exact ⟨.refl state.1, bounds⟩
  | @cons moment rest final running tail ih =>
    obtain ⟨first, others⟩ := List.forall_mem_cons.mp quiet
    have rested := moment.rests first bounds asks
    have bounded : moment.after.1.InBounds := (single running).inBounds bounds
    obtain ⟨later, inBounds⟩ := ih bounded (rested.asksFor asks) others
    exact ⟨rested.trans later, inBounds⟩

namespace Console

/-- The same console with a machine that has no memory of a wait. -/
def awake (console : Console η) : Console η := { console with machine := console.machine.awake }

private theorem related_load [Host η] (console : Console η) (program : List UInt8)
    (dialect : Dialect) :
    Related (fun real plain => real.1.InBounds ∧ plain = (real.1.awake, real.2))
      (console.load program dialect) (console.load program dialect) where
  schedule := rfl
  state := by
    have active : (console.machine.load console.host program dialect).1.mode = .running := by
      rw [Machine.load_eq]
      rfl
    have bounds := Machine.InBounds.load console.machine console.host program dialect
    have forgotten : (console.machine.load console.host program dialect).1.awake =
        (console.machine.load console.host program dialect).1 := by
      rw [Machine.awake, ← active]
    exact ⟨bounds, congrArg (·, _) forgotten.symm⟩

/-- From a load on, a console whose processor has no memory of waits goes through the same states,
the memory of a wait apart, and tells its host the same. While a program asks for a key and the
processor finds none, the registers, the memory and the number of completed instructions stand
still; the first step that finds a key completes the instruction with the lowest one. -/
theorem run_eq_refetching [Host η] (console : Console η) (program : List UInt8) (dialect : Dialect)
    (operations : List Operation) :
    let after := console.run (.load program dialect :: operations)
    console.runBy Machine.refetch (.load program dialect :: operations) = after.awake ∧
      ∀ x quiet final, after.machine.AsksFor x → Chain after.state quiet final →
        (∀ moment ∈ quiet, moment.IsQuiet) →
          after.machine.Rests final.1 ∧
          ∀ key, final.1.keypad.isDown key = true →
            (∀ other < key, final.1.keypad.isDown other = false) →
              final.1.step final.2 =
                ({ final.1 with
                    registers := { final.1.registers.set x key with
                      pc := final.1.registers.pc + 2 }
                    mode := .running
                    cycles := final.1.cycles + 1 }, final.2) := by
  intro after
  constructor
  · obtain ⟨schedule, -, state⟩ :=
      Machine.forgets_wait.run operations (console.related_load program dialect)
    rw [runBy_step] at schedule state
    exact eq_of_state schedule.symm state
  · intro x quiet final asks chain still
    have bounds := console.run_load_inBounds program dialect operations
    obtain ⟨rests, inBounds⟩ := chain.rests bounds asks still
    refine ⟨rests, fun key down lower => ?_⟩
    exact Machine.step_of_down inBounds (rests.asksFor asks)
      (Keypad.first?_eq_some_iff.mpr ⟨down, lower⟩) final.2

end Console

end Chip8
