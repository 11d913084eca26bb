import Chip8.Proofs.Resuming
import Chip8.Proofs.Sessions
import Mathlib.Logic.Function.Iterate

/-! # Steps and free runs as repeated instructions

Both commands that execute instructions repeat one activity of the console. A request for some steps
ends early with a fault, but behind a fault the machine is halted and further steps would do
nothing, so it comes to that many steps all the same, and requests add up. A free run repeats an
instruction, with a timer cycle behind every eighth, up to the first reason to stop. The main
statement, `step_and_continue_iterate`, says so of every session with a running machine.
-/

namespace Chip8

namespace Console

variable {console : Console Terminal} {dialect : Dialect}

theorem debugged_load (console : Console Terminal) (program : List UInt8) (dialect : Dialect) :
    (console.load program dialect).machine.Debugged dialect := by
  rw [machine_load]
  by_cases fits : program.length ≤ 3584
  · exact Machine.debugged_fresh (if_pos fits)
  · have halted : decide (program.length ≤ 3584) = false := decide_eq_false fits
    have faulted : (Machine.fresh program dialect console.machine.random).fault =
        some (.romTooLarge program.length 3584) := if_neg fits
    refine ⟨Nat.zero_le _, ?_, rfl, rfl⟩
    rw [faulted, Machine.isRunning]
    exact iff_of_false (Bool.eq_false_iff.mp halted) (Option.some_ne_none _)

private theorem debugged_iterate (debugged : console.machine.Debugged dialect) (count : Nat) :
    (step^[count] console).machine.Debugged dialect := by
  induction count with
  | zero => exact debugged
  | succ count ih =>
    rw [Function.iterate_succ_apply']
    exact (Debugger.persists_debugged dialect).step ih

/-- Behind a fault a step does nothing. -/
theorem step_of_fault (debugged : console.machine.Debugged dialect)
    (faulted : console.fault?.isSome = true) : console.step = console := by
  apply whenRunning_of_halted
  rw [Bool.eq_false_iff]
  intro running
  have sound : console.fault? = none := debugged.runs.mp running
  rw [sound] at faulted
  contradiction

/-- Up to a number of steps, ending with a fault, are that many steps. -/
theorem steps_eq_iterate (debugged : console.machine.Debugged dialect) (count : Nat) :
    console.steps count = step^[count] console := by
  induction count generalizing console with
  | zero => rfl
  | succ count ih =>
    have next : console.step.machine.Debugged dialect :=
      (Debugger.persists_debugged dialect).step debugged
    rw [Function.iterate_succ_apply]
    simp only [steps]
    split
    · next faulted =>
      rw [Function.iterate_fixed]
      exact step_of_fault next faulted
    · exact ih next

/-- No step behind a fault counts. -/
theorem iterate_min_of_fault (debugged : console.machine.Debugged dialect) {first : Nat}
    (faulted : (step^[first] console).fault?.isSome = true) (count : Nat) :
    step^[count] console = step^[min count first] console := by
  rcases Nat.le_total count first with within | beyond
  · rw [Nat.min_eq_left within]
  · rw [Nat.min_eq_right beyond]
    obtain ⟨more, rfl⟩ := Nat.exists_eq_add_of_le' beyond
    rw [Function.iterate_add_apply, Function.iterate_fixed]
    exact step_of_fault (debugged_iterate debugged first) faulted

end Console

namespace Debugger

/-- Some instructions in turn, each eighth with a timer cycle behind it unless it faults. -/
def freely (console : Console Terminal) : Nat → Console Terminal
  | 0 => console
  | count + 1 =>
    let stepped := (freely console count).step
    if (count + 1) % 8 = 0 ∧ stepped.fault? = none then stepped.tickTimers else stepped

private theorem freely_eq_rounds (console : Console Terminal) (count : Nat) :
    freely console count = rounds console (List.range' 1 count) := by
  induction count with
  | zero => rfl
  | succ count ih =>
    have eight : roundsPerTimerCycle = 8 := by decide
    rw [rounds_range'_succ, ← ih, Nat.add_comm 1]
    simp only [freely, round, eight]
    cases (freely console count).step.fault? with
    | some fault => simp only [reduceCtorEq, and_false, if_false, Option.isSome_some, if_true]
    | none => simp only [and_true, Option.isSome_none, Bool.false_eq_true, if_false]

namespace Session

variable {session : Session} {budget : Nat}

/-- Whether there is a reason to stop behind the last of some instructions: a fault, a breakpoint,
or nothing left to happen. -/
def Stops (session : Session) (count : Nat) : Prop :=
  let before := freely session.console (count - 1)
  let after := freely session.console count
  after.fault?.isSome = true ∨ after.machine.registers.pc ∈ session.breakpoints ∨
    isStuck after.machine before.machine.registers.pc = true

private theorem isSome_stopAfter? (session : Session) (count : Nat) :
    (stopAfter? session.breakpoints session.console 1 count).isSome = true ↔
      session.Stops (count + 1) := by
  unfold Stops
  simp only [stopAfter?, stop?, ← freely_eq_rounds, Nat.add_sub_cancel]
  cases (freely session.console (count + 1)).fault? with
  | some fault => simp
  | none =>
    simp only [Option.isSome_none, Bool.false_eq_true, false_or, List.contains_iff_mem]
    split
    · next member => simp [member]
    · next other =>
      split
      · next stuck => simp [stuck]
      · next free => simp [other, free]

private theorem stopAfter?_eq_none (session : Session) (count : Nat) :
    stopAfter? session.breakpoints session.console 1 count = none ↔
      ¬session.Stops (count + 1) := by
  rw [← isSome_stopAfter?, Bool.not_eq_true, Option.isSome_eq_false_iff, Option.isNone_iff_eq_none]

/-- A free run is answered after the first instruction that gives a reason to stop. -/
theorem map_continue_eq_some_iff (running : session.console.isRunning = true)
    {final : Console Terminal} :
    (session.execute? budget .continue).map (·.session.console) = some final ↔
      ∃ count, 1 ≤ count ∧ count ≤ budget ∧ final = freely session.console count ∧
        session.Stops count ∧
        ∀ earlier, 1 ≤ earlier → earlier < count → ¬session.Stops earlier := by
  rw [map_execute?]
  simp only [consoleAfter?, running, if_true]
  rw [Option.map_eq_some_iff]
  constructor
  · rintro ⟨⟨_, stop⟩, ran, rfl⟩
    obtain ⟨count, within, rfl, stops, silent⟩ := runFrom?_eq_some_iff.mp ran
    refine ⟨count + 1, Nat.succ_pos count, within, (freely_eq_rounds ..).symm, ?_, ?_⟩
    · rw [← isSome_stopAfter?, stops]
      rfl
    · intro earlier positive before
      obtain ⟨place, rfl⟩ := Nat.exists_eq_add_of_le' positive
      rw [← stopAfter?_eq_none]
      exact silent place (Nat.lt_of_succ_lt_succ before)
  · rintro ⟨count, positive, within, rfl, stops, silent⟩
    obtain ⟨place, rfl⟩ := Nat.exists_eq_add_of_le' positive
    rw [← isSome_stopAfter?, Option.isSome_iff_exists] at stops
    obtain ⟨stop, stops⟩ := stops
    refine ⟨(_, stop), runFrom?_eq_some_iff.mpr ⟨place, within, rfl, stops, ?_⟩, ?_⟩
    · intro earlier before
      rw [stopAfter?_eq_none]
      exact silent (earlier + 1) (Nat.succ_pos earlier) (Nat.succ_lt_succ before)
    · exact (freely_eq_rounds ..).symm

/-- A request for some steps is answered when they are done, if the machine was running at all. -/
theorem exists_step {dialect : Dialect} (debugged : session.machine.Debugged dialect)
    (budget count : Nat) :
    ∃ reply, session.execute? budget (.step count) = some reply ∧
      reply.session.console = Console.step^[count] session.console := by
  have whole : session.console.whenRunning (·.steps count) =
      Console.step^[count] session.console := by
    cases running : session.console.isRunning with
    | true =>
      rw [Console.whenRunning_of_running running]
      exact Console.steps_eq_iterate debugged count
    | false =>
      rw [Console.whenRunning_of_halted running, Function.iterate_fixed]
      exact Console.whenRunning_of_halted running _
  have after := session.map_execute? budget (.step count)
  rw [consoleAfter?, whole] at after
  exact Option.map_eq_some_iff.mp after

end Session

/-- In every session with a running machine, a request for some steps leaves what that many
instructions leave, or as many as there are up to the first fault, and two requests leave what one
for both numbers leaves. A free run that stops leaves what the instructions up to the first reason
to stop leave, with a timer cycle behind every eighth that does not fault. The address where it
begins is no reason. -/
theorem step_and_continue_iterate (console : Console Terminal) (program : List UInt8)
    (dialect : Dialect) (budget : Nat) (lines : List String) {session : Session}
    (reached : (Transcript.ofInput budget (console.load program dialect) lines).session = session)
    (running : session.console.isRunning = true) :
    (∀ bound count, ∃ reply, session.execute? bound (.step count) = some reply ∧
      reply.session.console = Console.step^[count] session.console ∧
      ∀ first, (Console.step^[first] session.console).fault?.isSome = true →
        reply.session.console = Console.step^[min count first] session.console) ∧
    (∀ bound count more, ∃ first second whole,
      session.execute? bound (.step count) = some first ∧
      first.session.execute? bound (.step more) = some second ∧
      session.execute? bound (.step (count + more)) = some whole ∧
      second.session.console = whole.session.console) ∧
    ∀ bound final, (session.execute? bound .continue).map (·.session.console) = some final ↔
      ∃ count, 1 ≤ count ∧ count ≤ bound ∧ final = freely session.console count ∧
        session.Stops count ∧
        ∀ earlier, 1 ≤ earlier → earlier < count → ¬session.Stops earlier := by
  have debugged : session.machine.Debugged dialect := by
    rw [← reached]
    exact (persists_debugged dialect).transcript budget
      (Console.debugged_load console program dialect) lines
  refine ⟨?_, ?_, fun bound final => Session.map_continue_eq_some_iff running⟩
  · intro bound count
    obtain ⟨reply, executed, left⟩ := Session.exists_step debugged bound count
    refine ⟨reply, executed, left, fun first faulted => ?_⟩
    rw [left]
    exact Console.iterate_min_of_fault debugged faulted count
  · intro bound count more
    obtain ⟨first, stepped, left⟩ := Session.exists_step debugged bound count
    obtain ⟨whole, together, all⟩ := Session.exists_step debugged bound (count + more)
    have between : first.session.machine.Debugged dialect := by
      rw [Session.machine, left]
      exact Console.debugged_iterate debugged count
    obtain ⟨second, resumed, behind⟩ := Session.exists_step between bound more
    refine ⟨first, second, whole, stepped, resumed, together, ?_⟩
    rw [behind, left, all, Nat.add_comm, Function.iterate_add_apply]

/-- A program that runs freely until it stays where it is. -/
theorem step_and_continue_iterate_ageing :
    let session : Session := { console := .load (.new {} .zeros) ageing {} }
    session.console.isRunning = true ∧
      ∃ count, 1 ≤ count ∧ count ≤ 9 ∧ freely session.console count = midAgeing 0x210 5 4 9 := by
  intro session
  have running : session.console.isRunning = true := congrArg Console.isRunning load_ageing
  have reached : (Transcript.ofInput 0 session.console []).session = session := rfl
  obtain ⟨-, -, runs⟩ :=
    step_and_continue_iterate (.new {} .zeros) ageing {} 0 [] reached running
  have ended : (session.execute? 9 .continue).map (·.session.console) =
      some (midAgeing 0x210 5 4 9) := by
    have left := congrArg (Option.map (·.console)) continues_ageing.ends
    rw [← load_ageing, Option.map_map] at left
    exact left
  obtain ⟨count, positive, within, left, -⟩ := (runs 9 _).mp ended
  exact ⟨running, count, positive, within, left.symm⟩

end Debugger

end Chip8
