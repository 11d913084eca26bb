import Chip8.Host.Recorded
import Chip8.Proofs.Transition

/-! # What a host is told

A recorded host shows which calls each activity makes: a processor step tells about a sprite or
about a fault, a timer cycle about the sound and then about a pending clear, a poll asks and may
then tell about a bad key. Calls are only ever added, so each statement names the calls that an
activity adds.
-/

namespace Chip8

universe u

variable {η : Type u}

def Call.fault? : Call → Option Fault
  | .fault cause => some cause
  | _ => none

/-- No call, or the points of a sprite and then one request to present the screen. -/
def Draws (calls : List Call) : Prop :=
  calls = [] ∨ ∃ plotted : List Call, (∀ call ∈ plotted, ∃ x y lit, call = .draw x y lit) ∧
    calls = plotted ++ [.screen .updating]

/-- At most one change of the sound, and then at most one request to clear the screen. -/
def Flushes (calls : List Call) : Prop :=
  ∃ sounds clears, calls = sounds ++ clears ∧
    (sounds = [] ∨ ∃ active, sounds = [.sound active]) ∧
    (clears = [] ∨ clears = [.screen .clearing])

theorem Draws.draw_or_update {calls : List Call} (drawn : Draws calls) {call : Call}
    (member : call ∈ calls) : (∃ x y lit, call = .draw x y lit) ∨ call = .screen .updating := by
  rcases drawn with rfl | ⟨plotted, points, rfl⟩
  · contradiction
  · rcases List.mem_append.mp member with plot | last
    · exact .inl (points call plot)
    · exact .inr (List.mem_singleton.mp last)

theorem Draws.silent {calls : List Call} (drawn : Draws calls) :
    calls.filterMap Call.fault? = [] := by
  refine List.filterMap_eq_nil_iff.mpr fun call member => ?_
  obtain ⟨x, y, lit, rfl⟩ | rfl := drawn.draw_or_update member <;> rfl

private theorem Flushes.silent {calls : List Call} (flushed : Flushes calls) :
    calls.filterMap Call.fault? = [] := by
  obtain ⟨sounds, clears, rfl, rfl | ⟨active, rfl⟩, rfl | rfl⟩ := flushed <;> rfl

namespace Sprite

/-- The calls that plot points, each with the answer of the host. -/
def drawCalls (points : List (Nat × Nat)) (answers : List Bool) : List Call :=
  (points.zip answers).map fun (point, lit) => .draw point.1 point.2 lit

/-- The calls that draw a sprite: its points, then the request to present the screen. -/
def calls (points : List (Nat × Nat)) (answers : List Bool) : List Call :=
  drawCalls points answers ++ [.screen .updating]

private theorem draws_calls (points : List (Nat × Nat)) (answers : List Bool) :
    Draws (calls points answers) := by
  refine .inr ⟨drawCalls points answers, fun call member => ?_, rfl⟩
  obtain ⟨⟨⟨x, y⟩, lit⟩, -, rfl⟩ := List.mem_map.mp member
  exact ⟨x, y, lit, rfl⟩

/-- Every point is plotted once and in turn, and a hit is an answer that the point was lit. -/
theorem plot_calls [Host η] (host : Recorded η) (points : List (Nat × Nat)) :
    ∃ answers : List Bool, answers.length = points.length ∧
      (plot host points).1 = answers.contains true ∧
      (plot host points).2.calls.toList = host.calls.toList ++ drawCalls points answers := by
  induction points generalizing host with
  | nil => exact ⟨[], rfl, rfl, (List.append_nil _).symm⟩
  | cons point rest ih =>
    obtain ⟨answers, length, hit, calls⟩ := ih (Host.drawPixel host point.1 point.2).2
    refine ⟨(Host.drawPixel host point.1 point.2).1 :: answers, ?_, ?_, ?_⟩
    · rw [List.length_cons, List.length_cons, length]
    · simp only [plot, hit, List.contains_cons, Bool.true_beq]
    · simp only [plot, calls, drawCalls, List.zip_cons_cons, List.map_cons]
      simp only [Host.drawPixel, Recorded.toList_calls_note, List.append_assoc, List.cons_append,
        List.nil_append]

end Sprite

namespace Machine

/-- A completed instruction makes no calls, or those of a sprite. -/
theorem execute_draws [Host η] {machine : Machine} {host : Recorded η} {instruction : Instruction}
    {flow : Flow} (done : (machine.execute host instruction).outcome = .ok flow) :
    ∃ made, (machine.execute host instruction).host.calls.toList = host.calls.toList ++ made ∧
      Draws made := by
  by_cases draws : ∃ x y rows, instruction = .draw x y rows
  · obtain ⟨x, y, rows, rfl⟩ := draws
    cases read : machine.memory.readRange machine.registers.i.toNat rows.val with
    | error refusal =>
      simp only [execute, drawSprite_of_error read] at done
      contradiction
    | ok sprite =>
      obtain ⟨answers, -, -, plotted⟩ :=
        Sprite.plot_calls host (machine.spritePoints x y sprite)
      have calls : (machine.execute host (.draw x y rows)).host.calls.toList =
          host.calls.toList ++ Sprite.calls (machine.spritePoints x y sprite) answers := by
        simp only [execute, drawSprite_of_read read rfl, Host.screen, Recorded.toList_calls_note,
          plotted, Sprite.calls, List.append_assoc]
      exact ⟨_, calls, Sprite.draws_calls ..⟩
  · have other (x y : VIndex) (rows : RowCount) : instruction ≠ .draw x y rows :=
      fun same => draws ⟨x, y, rows, same⟩
    refine ⟨[], ?_, .inl rfl⟩
    rw [machine.execute_of_not_draw other host host, List.append_nil]

/-- An instruction after which the program goes on stores no fault and stops nothing. -/
theorem follow_execute [Host η] (machine : Machine) (host : η) (instruction : Instruction)
    (address : Address) (flow : Flow) :
    let after := (machine.execute host instruction).machine.follow address flow
    after.fault = machine.fault ∧ after.isRunning = machine.isRunning := by
  have untouched := machine.execute_untouched host instruction
  have running : (machine.execute host instruction).machine.isRunning = machine.isRunning := by
    rw [isRunning, isRunning, untouched.status]
  cases flow <;> exact ⟨untouched.fault, running⟩

@[simp] theorem halt_calls [Host η] (machine : Machine) (host : Recorded η) (fault : Fault) :
    (machine.halt host fault).2.calls.toList = host.calls.toList ++ [.fault fault] :=
  Recorded.toList_calls_note ..

/-- How an activity that made some calls leaves the fault of a machine: either no fault was told and
none was stored, or one was told last, stored, and stopped the machine. -/
inductive Settles (before after : Machine) (made : List Call) : Prop
  | untroubled (silent : made.filterMap Call.fault? = []) (kept : after.fault = before.fault)
  | halted {told : List Call} {fault : Fault} (silent : told.filterMap Call.fault? = [])
      (last : made = told ++ [.fault fault]) (stored : after.fault = some fault)
      (stopped : after.isRunning = false)

private theorem settles_halt [Host η] {before machine : Machine} (host : η) (told : List Call)
    (silent : told.filterMap Call.fault? = []) (fault : Fault) :
    before.Settles (machine.halt host fault).1 (told ++ [.fault fault]) :=
  .halted silent rfl rfl rfl

theorem step_settles [Host η] (machine : Machine) (host : Recorded η) :
    ∃ made, (machine.step host).2.calls.toList = host.calls.toList ++ made ∧
      machine.Settles (machine.step host).1 made := by
  have stepped := machine.step_stepped host
  generalize machine.step host = result at stepped ⊢
  cases stepped with
  | waited => exact ⟨[], (List.append_nil _).symm, .untroubled rfl rfl⟩
  | resumed => exact ⟨[], (List.append_nil _).symm, .untroubled rfl rfl⟩
  | unfetched => exact ⟨_, halt_calls .., settles_halt host [] rfl _⟩
  | refused => exact ⟨_, halt_calls .., settles_halt host [] rfl _⟩
  | @completed instruction flow active fetched done =>
    obtain ⟨made, calls, drawn⟩ := execute_draws done
    exact ⟨made, calls, .untroubled drawn.silent (follow_execute ..).1⟩

/-- A poll asks once, and then may tell of a key that is none. -/
theorem pollInput_calls [Host η] (machine : Machine) (host : Recorded η) :
    ∃ made, (machine.pollInput host).2.calls.toList = host.calls.toList ++ made ∧
      (made = [.poll machine.isPaused] ∧ (machine.pollInput host).1.fault = machine.fault ∨
        ∃ fault, made = [.poll machine.isPaused, .fault fault] ∧
          (machine.pollInput host).1.fault = some fault ∧
          (machine.pollInput host).1.isRunning = false) := by
  simp only [pollInput, Host.poll]
  split
  · simp only [press]
    split
    · exact ⟨_, Recorded.toList_calls_note .., .inl ⟨rfl, rfl⟩⟩
    · next problem _ =>
      refine ⟨_, ?_, .inr ⟨.ofInvalidKey problem, rfl, rfl, rfl⟩⟩
      rw [halt_calls, Recorded.toList_calls_note, List.append_assoc]
      rfl
  · exact ⟨_, Recorded.toList_calls_note .., .inl ⟨rfl, rfl⟩⟩

theorem pollInput_settles [Host η] (machine : Machine) (host : Recorded η) :
    ∃ made, (machine.pollInput host).2.calls.toList = host.calls.toList ++ made ∧
      machine.Settles (machine.pollInput host).1 made := by
  obtain ⟨made, calls, ⟨rfl, kept⟩ | ⟨fault, rfl, stored, stopped⟩⟩ :=
    machine.pollInput_calls host
  · exact ⟨_, calls, .untroubled rfl kept⟩
  · have silent : [Call.poll machine.isPaused].filterMap Call.fault? = [] := rfl
    exact ⟨_, calls, .halted silent rfl stored stopped⟩

/-- What a timer cycle tells of the sound: nothing, or that it starts or stops. -/
def soundCalls (machine : Machine) : List Call :=
  if machine.timers.tick.isAudible != machine.status.soundActive
  then [.sound machine.timers.tick.isAudible] else []

/-- What a timer cycle tells of a clear: nothing, or that one was pending. -/
def clearCalls (machine : Machine) : List Call :=
  if machine.status.clearDisplay then [.screen .clearing] else []

theorem tickTimers_calls [Host η] (machine : Machine) (host : Recorded η) :
    (machine.tickTimers host).2.calls.toList =
      host.calls.toList ++ (machine.soundCalls ++ machine.clearCalls) := by
  have sounded : (machine.tickSound host).2.calls.toList =
      host.calls.toList ++ machine.soundCalls := by
    simp only [tickSound, soundCalls]
    split
    · exact Recorded.toList_calls_note ..
    · exact (List.append_nil _).symm
  have pending : (machine.tickSound host).1.status.clearDisplay = machine.status.clearDisplay :=
    rfl
  simp only [tickTimers, flushClear, pending, clearCalls]
  split
  · simp only [Host.screen, Recorded.toList_calls_note, sounded, List.append_assoc]
  · rw [sounded, List.append_nil]

private theorem flushes_cycle (machine : Machine) :
    Flushes (machine.soundCalls ++ machine.clearCalls) := by
  refine ⟨_, _, rfl, ?_, ?_⟩
  · unfold soundCalls
    split
    · exact .inr ⟨_, rfl⟩
    · exact .inl rfl
  · unfold clearCalls
    split
    · exact .inr rfl
    · exact .inl rfl

theorem tickTimers_flushes [Host η] (machine : Machine) (host : Recorded η) :
    ∃ made, (machine.tickTimers host).2.calls.toList = host.calls.toList ++ made ∧
      Flushes made :=
  ⟨_, machine.tickTimers_calls host, machine.flushes_cycle⟩

theorem tickTimers_settles [Host η] (machine : Machine) (host : Recorded η) :
    ∃ made, (machine.tickTimers host).2.calls.toList = host.calls.toList ++ made ∧
      machine.Settles (machine.tickTimers host).1 made := by
  obtain ⟨made, calls, flushed⟩ := machine.tickTimers_flushes host
  refine ⟨made, calls, .untroubled flushed.silent ?_⟩
  simp only [tickTimers, flushClear]
  split <;> rfl

/-- A load starts without a fault, and a program that does not fit is told at once. -/
theorem load_settles [Host η] (machine : Machine) (host : Recorded η) (program : List UInt8)
    (dialect : Dialect) :
    ∃ made, (machine.load host program dialect).2.calls.toList = host.calls.toList ++ made ∧
      (machine.reset dialect).Settles (machine.load host program dialect).1 made := by
  simp only [load]
  split
  · exact ⟨[], (List.append_nil _).symm, .untroubled rfl rfl⟩
  · exact ⟨_, halt_calls .., settles_halt host [] rfl _⟩

end Machine

end Chip8
