import Chip8.Proofs.Bounds
import Mathlib.Data.List.DropRight

/-! # The history of a run

A request may come to nothing, to one activity of the machine or, as a tick does, to three of them.
The history of a run lists these activities in the order in which they happen, each with the state
that it finds. `chain_history` says that the list is complete: every state in it is the one that the
activity before has left, and the last activity leaves the state of the console after the run. So
what a run does can be shown by induction on its history, one activity at a time, however the
schedule and the pauses have cut it into requests: `Chain.tracks`. What a state says of the moments
before it is mostly what the `latest?` of some kind said, or what has happened `since` then.
-/

namespace Chip8

universe u

variable {η : Type u}

/-- What a console can make its machine do. -/
inductive Activity where
  | load (program : List UInt8) (dialect : Dialect)
  | poll
  | step
  | cycle
  | pause (paused : Bool)
  | stop
deriving DecidableEq, Repr

namespace Activity

def apply [Host η] : Activity → Machine × η → Machine × η
  | .load program dialect, (machine, host) => machine.load host program dialect
  | .poll, (machine, host) => machine.pollInput host
  | .step, (machine, host) => machine.step host
  | .cycle, (machine, host) => machine.tickTimers host
  | .pause paused, (machine, host) => ({ machine with status.paused := paused }, host)
  | .stop, (machine, host) => ({ machine with status.running := false }, host)

/-- Whether an activity happens only while a program runs. -/
def needsProgram : Activity → Bool
  | .poll | .step | .cycle => true
  | .load .. | .pause _ | .stop => false

def isLoad : Activity → Bool
  | .load .. => true
  | _ => false

end Activity

/-- An activity and the state that it finds. -/
structure Moment (η : Type u) where
  activity : Activity
  machine : Machine
  host : η

namespace Moment

def before (moment : Moment η) : Machine × η := (moment.machine, moment.host)

def after [Host η] (moment : Moment η) : Machine × η := moment.activity.apply moment.before

end Moment

section Moments

variable {α : Type} {tells : Moment η → Option α} {moments : List (Moment η)}

/-- What the last of some moments told that told anything. -/
def latest? (tells : Moment η → Option α) (moments : List (Moment η)) : Option α :=
  (moments.filterMap tells).getLast?

/-- The moments behind the last one of a kind, or all of them if none is of that kind. -/
def since (kind : Moment η → Bool) (moments : List (Moment η)) : List (Moment η) :=
  moments.rtakeWhile fun moment => !kind moment

theorem latest?_concat (tells : Moment η → Option α) (moments : List (Moment η))
    (moment : Moment η) :
    latest? tells (moments ++ [moment]) = (tells moment).or (latest? tells moments) := by
  rw [latest?, List.filterMap_append]
  cases told : tells moment with
  | none =>
    rw [List.filterMap_cons_none told, List.filterMap_nil, List.append_nil]
    rfl
  | some value =>
    rw [List.filterMap_cons_some told, List.filterMap_nil, List.getLast?_concat]
    rfl

/-- What was told last was told by some moment, and the moments behind that one told nothing. -/
theorem latest?_eq_some_iff {value : α} :
    latest? tells moments = some value ↔ ∃ past moment future,
      moments = past ++ moment :: future ∧ tells moment = some value ∧
        ∀ later ∈ future, tells later = none := by
  rw [latest?, List.getLast?_eq_some_iff]
  constructor
  · rintro ⟨earlier, all⟩
    obtain ⟨past, rest, rfl, -, last⟩ := List.filterMap_eq_append_iff.mp all
    obtain ⟨skipped, moment, future, rfl, -, told, silent⟩ := List.filterMap_eq_cons_iff.mp last
    refine ⟨past ++ skipped, moment, future, ?_, told, List.filterMap_eq_nil_iff.mp silent⟩
    rw [List.append_assoc]
  · rintro ⟨past, moment, future, rfl, told, silent⟩
    refine ⟨past.filterMap tells, ?_⟩
    rw [List.filterMap_append, List.filterMap_cons_some told,
      List.filterMap_eq_nil_iff.mpr silent]

theorem since_concat (kind : Moment η → Bool) (moments : List (Moment η)) (moment : Moment η) :
    since kind (moments ++ [moment]) =
      if kind moment then [] else since kind moments ++ [moment] := by
  rw [since, List.rtakeWhile_concat]
  cases kind moment <;> rfl

theorem any_since_concat (kind flag : Moment η → Bool) (moments : List (Moment η))
    (moment : Moment η) :
    (since kind (moments ++ [moment])).any flag =
      (!kind moment && ((since kind moments).any flag || flag moment)) := by
  rw [since_concat]
  cases kind moment with
  | true => rfl
  | false =>
    simp only [Bool.false_eq_true, if_false, List.any_append, List.any_cons, List.any_nil,
      Bool.or_false, Bool.not_false, Bool.true_and]

end Moments

namespace Machine

/-- What stands still while no program is loaded and no processor step is taken. -/
structure Rests (before after : Machine) : Prop where
  registers : after.registers = before.registers
  memory : after.memory = before.memory
  cycles : after.cycles = before.cycles

namespace Rests

theorem refl (machine : Machine) : machine.Rests machine := ⟨rfl, rfl, rfl⟩

theorem trans {before middle after : Machine} (first : before.Rests middle)
    (second : middle.Rests after) : before.Rests after where
  registers := second.registers.trans first.registers
  memory := second.memory.trans first.memory
  cycles := second.cycles.trans first.cycles

end Rests

section Idling

variable [Host η] (machine : Machine) (host : η)

/-- A poll may change which keys are down, hold, release or stop the machine, and store a fault. -/
theorem exists_pollInput :
    ∃ keypad running paused fault,
      (machine.pollInput host).1 =
        { machine with keypad, status := { machine.status with running, paused }, fault } := by
  simp only [pollInput]
  split
  · simp only [press]
    split
    · exact ⟨_, _, _, _, rfl⟩
    · exact ⟨_, _, _, _, rfl⟩
  · exact ⟨_, _, _, _, rfl⟩

/-- A timer cycle counts the timers down, notes whether the sound is on, and leaves no clear
pending. -/
theorem tickTimers_machine :
    (machine.tickTimers host).1 =
      { machine with
        timers := machine.timers.tick
        status := { machine.status with
          soundActive := machine.timers.tick.isAudible
          clearDisplay := false } } := by
  have flushed (machine : Machine) (host : η) :
      (machine.flushClear host).1 = { machine with status.clearDisplay := false } := by
    unfold flushClear
    split
    · rfl
    · next quiet => rw [← Bool.eq_false_iff.mpr quiet]
  exact flushed ..

theorem rests_pollInput : machine.Rests (machine.pollInput host).1 := by
  obtain ⟨keypad, running, paused, fault, polled⟩ := machine.exists_pollInput host
  rw [polled]
  exact ⟨rfl, rfl, rfl⟩

theorem rests_tickTimers : machine.Rests (machine.tickTimers host).1 := by
  rw [tickTimers_machine]
  exact ⟨rfl, rfl, rfl⟩

end Idling

end Machine

theorem Moment.rests_of_idle [Host η] (moment : Moment η)
    (noLoad : moment.activity.isLoad = false) (noStep : moment.activity ≠ .step) :
    moment.machine.Rests moment.after.1 := by
  obtain ⟨activity, machine, host⟩ := moment
  cases activity with
  | load => contradiction
  | poll => exact machine.rests_pollInput host
  | step => contradiction
  | cycle => exact machine.rests_tickTimers host
  | pause paused => exact ⟨rfl, rfl, rfl⟩
  | stop => exact ⟨rfl, rfl, rfl⟩

/-- Moments that lead from one state to another, each finding what the one before has left. Polls,
processor steps and timer cycles find a program running. -/
inductive Chain [Host η] : Machine × η → List (Moment η) → Machine × η → Prop
  | nil (state : Machine × η) : Chain state [] state
  | cons {moment : Moment η} {rest : List (Moment η)} {final : Machine × η}
      (running : moment.activity.needsProgram = true → moment.machine.isRunning = true)
      (tail : Chain moment.after rest final) : Chain moment.before (moment :: rest) final

namespace Chain

variable [Host η] {start middle final : Machine × η} {first second : List (Moment η)}

theorem single {moment : Moment η}
    (running : moment.activity.needsProgram = true → moment.machine.isRunning = true) :
    Chain moment.before [moment] moment.after := .cons running (.nil _)

private theorem append (left : Chain start first middle) (right : Chain middle second final) :
    Chain start (first ++ second) final := by
  induction left with
  | nil => exact right
  | cons running _ ih => exact .cons running (ih right)

/-- A chain can be cut between any two moments. -/
theorem append_iff : Chain start (first ++ second) final ↔
    ∃ middle, Chain start first middle ∧ Chain middle second final := by
  constructor
  · intro chain
    induction first generalizing start with
    | nil => exact ⟨start, .nil start, chain⟩
    | cons moment rest ih =>
      cases chain with
      | cons running tail =>
        obtain ⟨middle, left, right⟩ := ih tail
        exact ⟨middle, .cons running left, right⟩
  · rintro ⟨middle, left, right⟩
    exact left.append right

/-- A chain can be cut around a moment. -/
theorem around {moment : Moment η} (chain : Chain start (first ++ moment :: second) final) :
    Chain start first moment.before ∧
      (moment.activity.needsProgram = true → moment.machine.isRunning = true) ∧
      Chain moment.after second final := by
  obtain ⟨middle, left, right⟩ := append_iff.mp chain
  cases right with
  | cons running tail => exact ⟨left, running, tail⟩

section Tracking

variable (holds : List (Moment η) → Machine × η → Prop)
  (onward : ∀ past (moment : Moment η),
    (moment.activity.needsProgram = true → moment.machine.isRunning = true) →
      holds past moment.before → holds (past ++ [moment]) moment.after)

include onward

private theorem tracks_behind (chain : Chain start second final) (before : holds first start) :
    holds (first ++ second) final := by
  induction chain generalizing first with
  | nil => exact (List.append_nil first).symm ▸ before
  | @cons moment rest final running tail ih =>
    rw [List.append_cons]
    exact ih (onward first moment running before)

/-- What holds of the moments so far and of the state that they lead to, and goes on to hold with
one moment more, holds behind a chain if it holds before it. -/
theorem tracks (chain : Chain start first final) (before : holds [] start) : holds first final :=
  chain.tracks_behind holds onward before

end Tracking

/-- What the activities keep holds at the end of a chain, if the loads in it keep it as well. -/
theorem keeps {holds : Machine × η → Prop} (invariant : Invariant holds)
    (loads : ∀ program dialect {machine host}, holds (machine, host) →
      holds (machine.load host program dialect))
    (chain : Chain start first final) (initially : holds start) : holds final := by
  induction chain with
  | nil => exact initially
  | @cons moment rest final running tail ih =>
    refine ih ?_
    obtain ⟨activity, machine, host⟩ := moment
    cases activity with
    | load program dialect => exact loads program dialect initially
    | poll => exact invariant.poll (running rfl) initially
    | step => exact invariant.step (running rfl) initially
    | cycle => exact invariant.cycle (running rfl) initially
    | pause paused => exact invariant.pause paused initially
    | stop => exact invariant.stop initially

theorem inBounds (chain : Chain start first final) (bounds : start.1.InBounds) :
    final.1.InBounds :=
  chain.keeps Machine.InBounds.invariant (fun _ _ {_ _} _ => .load ..) bounds

end Chain

namespace Console

/-- The moment at which a console begins an activity. -/
def moment (console : Console η) (activity : Activity) : Moment η :=
  ⟨activity, console.machine, console.host⟩

/-- The moment of an activity that is due, if a program is running. -/
def momentIf (console : Console η) (due : Bool) (activity : Activity) : List (Moment η) :=
  if console.isRunning && due then [console.moment activity] else []

/-- What a request comes to. The stages of a tick are looked at one after the other, as an earlier
one may stop or pause the machine. -/
def moments [Host η] (console : Console η) : Operation → List (Moment η)
  | .load program dialect => [console.moment (.load program dialect)]
  | .tickAt now =>
    let polled := console.whenRunning (pollStage now)
    let stepped := polled.whenRunning (cpuStage now)
    console.momentIf (console.schedule.input.isDue now) .poll ++
      polled.momentIf (!polled.isPaused && polled.schedule.cpu.isDue now) .step ++
      stepped.momentIf (stepped.schedule.timers.isDue now) .cycle
  | .step => console.momentIf true .step
  | .tickTimers => console.momentIf true .cycle
  | .pause paused => [console.moment (.pause paused)]
  | .stop => [console.moment .stop]

/-- What requests come to, one after the other. -/
def history [Host η] (console : Console η) : List Operation → List (Moment η)
  | [] => []
  | operation :: rest => console.moments operation ++ (console.perform operation).history rest

/-- The history of a run can be cut between any two requests. -/
theorem history_append [Host η] (console : Console η) (first second : List Operation) :
    console.history (first ++ second) =
      console.history first ++ (console.run first).history second := by
  induction first generalizing console with
  | nil => rfl
  | cons operation rest ih =>
    rw [List.cons_append, history, history, run_cons, ih, List.append_assoc]

/-- The activities that requests come to, one after the other. -/
def activities [Host η] (console : Console η) (operations : List Operation) : List Activity :=
  (console.history operations).map Moment.activity

theorem activities_append [Host η] (console : Console η) (first second : List Operation) :
    console.activities (first ++ second) =
      console.activities first ++ (console.run first).activities second := by
  rw [activities, history_append, List.map_append]
  rfl

theorem activity_of_mem_momentIf {console : Console η} {due : Bool} {activity : Activity}
    {moment : Moment η} (member : moment ∈ console.momentIf due activity) :
    moment.activity = activity := by
  unfold momentIf at member
  split at member
  · exact congrArg Moment.activity (List.mem_singleton.mp member)
  · contradiction

/-- Nothing but a request to load a program loads one. -/
theorem isLoad_of_mem_moments [Host η] {console : Console η} {operation : Operation}
    {moment : Moment η} (noLoad : operation.isLoad = false)
    (member : moment ∈ console.moments operation) : moment.activity.isLoad = false := by
  cases operation with
  | load => contradiction
  | tickAt now =>
    rcases List.mem_append.mp member with earlier | cycle
    · rcases List.mem_append.mp earlier with poll | step
      · rw [activity_of_mem_momentIf poll]
        rfl
      · rw [activity_of_mem_momentIf step]
        rfl
    · rw [activity_of_mem_momentIf cycle]
      rfl
  | step =>
    rw [activity_of_mem_momentIf member]
    rfl
  | tickTimers =>
    rw [activity_of_mem_momentIf member]
    rfl
  | pause paused =>
    rw [List.mem_singleton.mp member]
    rfl
  | stop =>
    rw [List.mem_singleton.mp member]
    rfl

theorem isLoad_of_mem_history [Host η] {console : Console η} {operations : List Operation}
    {moment : Moment η} (noLoad : ∀ operation ∈ operations, operation.isLoad = false)
    (member : moment ∈ console.history operations) : moment.activity.isLoad = false := by
  induction operations generalizing console with
  | nil => contradiction
  | cons operation rest ih =>
    obtain ⟨first, others⟩ := List.forall_mem_cons.mp noLoad
    rcases List.mem_append.mp member with here | later
    · exact isLoad_of_mem_moments first here
    · exact ih others later

private theorem chain_moment [Host η] {console : Console η} (activity : Activity)
    (running : activity.needsProgram = true → console.isRunning = true) :
    Chain console.state [console.moment activity] (activity.apply console.state) := by
  have running' : (console.moment activity).activity.needsProgram = true →
      (console.moment activity).machine.isRunning = true := running
  exact .single running'

/-- A stage of a tick is at most one moment. -/
theorem chain_whenRunning [Host η] {console : Console η} {due : Bool}
    (stage : Console η → Console η) (activity : Activity)
    (staged : (stage console).state =
      if due then activity.apply console.state else console.state) :
    Chain console.state (console.momentIf due activity) (console.whenRunning stage).state := by
  cases running : console.isRunning with
  | false =>
    simp only [momentIf, whenRunning, running, Bool.false_and, Bool.false_eq_true, if_false]
    exact .nil _
  | true =>
    simp only [momentIf, whenRunning, running, Bool.true_and, if_true, staged]
    cases due with
    | false =>
      simp only [Bool.false_eq_true, if_false]
      exact .nil _
    | true =>
      simp only [if_true]
      exact chain_moment activity fun _ => running

theorem chain_moments [Host η] (console : Console η) (operation : Operation) :
    Chain console.state (console.moments operation) (console.perform operation).state := by
  cases operation with
  | load program dialect => exact chain_moment (.load program dialect) nofun
  | tickAt now =>
    have polled := chain_whenRunning (pollStage now) .poll (console.state_pollStage now)
    have stepped := chain_whenRunning (cpuStage now) .step
      ((console.whenRunning (pollStage now)).state_cpuStage now)
    have ticked := chain_whenRunning (timerStage now) .cycle
      (((console.whenRunning (pollStage now)).whenRunning (cpuStage now)).state_timerStage now)
    exact (polled.append stepped).append ticked
  | step =>
    have always : (console.act Machine.step).state =
        if true then Activity.step.apply console.state else console.state := rfl
    exact chain_whenRunning (·.act Machine.step) .step always
  | tickTimers =>
    have always : (console.act Machine.tickTimers).state =
        if true then Activity.cycle.apply console.state else console.state := rfl
    exact chain_whenRunning (·.act Machine.tickTimers) .cycle always
  | pause paused => exact chain_moment (.pause paused) nofun
  | stop => exact chain_moment .stop nofun

/-- The history of a run leads from where it started to where it ended. -/
theorem chain_history [Host η] (console : Console η) (operations : List Operation) :
    Chain console.state (console.history operations) (console.run operations).state := by
  induction operations generalizing console with
  | nil => exact .nil _
  | cons operation rest ih => exact (console.chain_moments operation).append (ih _)

end Console

namespace Machine

/-- The instruction that a processor step completes. A step that raises a fault completes none, nor
does one that finds no key to wait for. -/
def completes? [Host η] (machine : Machine) (host : η) : Option Instruction :=
  match machine.mode with
  | .waitingForKey x => machine.keypad.first?.map fun _ => .waitKey x
  | .running =>
    match machine.instructionAt machine.registers.pc with
    | .error _ => none
    | .ok instruction =>
      match (machine.execute host instruction).outcome with
      | .error _ => none
      | .ok (.waitForKey _) => none
      | .ok _ => some instruction

variable [Host η] {machine : Machine} {host : η}

theorem completes?_of_waiting {x : VIndex} (waiting : machine.mode = .waitingForKey x) :
    machine.completes? host = machine.keypad.first?.map fun _ => .waitKey x := by
  simp only [completes?, waiting]

theorem completes?_of_unfetched {fault : Fault} (active : machine.mode = .running)
    (missing : machine.instructionAt machine.registers.pc = .error fault) :
    machine.completes? host = none := by
  simp only [completes?, active, missing]

theorem completes?_of_refuses {instruction : Instruction} {fault : Fault}
    (active : machine.mode = .running)
    (fetched : machine.instructionAt machine.registers.pc = .ok instruction)
    (refuses : machine.Refuses instruction fault) : machine.completes? host = none := by
  simp only [completes?, active, fetched, execute_of_refuses refuses]

theorem completes?_of_done {instruction : Instruction} {flow : Flow}
    (active : machine.mode = .running)
    (fetched : machine.instructionAt machine.registers.pc = .ok instruction)
    (done : (machine.execute host instruction).outcome = .ok flow) :
    machine.completes? host = match flow with
      | .waitForKey _ => none
      | _ => some instruction := by
  simp only [completes?, active, fetched, done]
  cases flow <;> rfl

/-- What is executed is completed, unless it only begins a wait. -/
theorem completes_or_waits {instruction : Instruction} {flow : Flow}
    (active : machine.mode = .running)
    (fetched : machine.instructionAt machine.registers.pc = .ok instruction)
    (done : (machine.execute host instruction).outcome = .ok flow) :
    machine.completes? host = some instruction ∨
      (∃ x, instruction = .waitKey x) ∧ machine.completes? host = none := by
  rw [completes?_of_done active fetched done]
  cases flow with
  | waitForKey x =>
    cases execute_leads done with
    | waits => exact .inr ⟨⟨x, rfl⟩, rfl⟩
  | next => exact .inl rfl
  | skip => exact .inl rfl
  | jump target => exact .inl rfl

/-- What a processor step completes without waiting for it is executed to its end. -/
theorem done_of_completes? {instruction : Instruction}
    (completed : machine.completes? host = some instruction)
    (other : ∀ x, instruction ≠ .waitKey x) :
    machine.mode = .running ∧
      machine.instructionAt machine.registers.pc = .ok instruction ∧
      ∃ flow, (machine.execute host instruction).outcome = .ok flow := by
  cases mode : machine.mode with
  | waitingForKey x =>
    rw [completes?_of_waiting mode] at completed
    obtain ⟨_, -, rfl⟩ := Option.map_eq_some_iff.mp completed
    exact absurd rfl (other x)
  | running =>
    cases fetched : machine.instructionAt machine.registers.pc with
    | error fault =>
      rw [completes?_of_unfetched mode fetched] at completed
      contradiction
    | ok found =>
      simp only [completes?, mode, fetched] at completed
      split at completed
      · contradiction
      · contradiction
      · next flow _ done =>
        cases completed
        exact ⟨rfl, rfl, flow, done⟩

/-- What a processor step completes is the instruction that it finds. -/
theorem fetched_of_completes? (bounds : machine.InBounds) {instruction : Instruction}
    (completed : machine.completes? host = some instruction) :
    machine.instructionAt machine.registers.pc = .ok instruction := by
  cases mode : machine.mode with
  | waitingForKey x =>
    rw [completes?_of_waiting mode] at completed
    obtain ⟨_, -, rfl⟩ := Option.map_eq_some_iff.mp completed
    exact (bounds.waiting x mode).2
  | running =>
    cases fetched : machine.instructionAt machine.registers.pc with
    | error fault =>
      rw [completes?_of_unfetched mode fetched] at completed
      contradiction
    | ok found =>
      simp only [completes?, mode, fetched] at completed
      split at completed
      · contradiction
      · contradiction
      · cases completed
        rfl

end Machine

/-- The instruction that a moment completes, if it is a processor step that completes one. -/
def Moment.completed? [Host η] (moment : Moment η) : Option Instruction :=
  match moment.activity with
  | .step => moment.machine.completes? moment.host
  | _ => none

end Chip8
