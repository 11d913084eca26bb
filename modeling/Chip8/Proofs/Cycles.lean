import Chip8.Proofs.Calls
import Chip8.Proofs.Footprint
import Chip8.Proofs.History

/-! # What timer cycles tell and settle

The sound and a pending clear are status bits until a timer cycle tells the host of them, and no
other activity tells of either. `Moment.exists_made` says so of the calls that a moment makes, and
`soundActive_after` and `clearDisplay_after` say what becomes of the two bits. A load resets both,
and tells nobody.
-/

namespace Chip8

universe u

variable {η : Type u}

/-- Whether a call is about the sound, or clears the screen. -/
def Call.isCyclic : Call → Bool
  | .sound _ => true
  | .screen signal => signal.clear
  | _ => false

private theorem Draws.acyclic {calls : List Call} (drawn : Draws calls) :
    calls.filter Call.isCyclic = [] := by
  refine List.filter_eq_nil_iff.mpr fun call member => ?_
  obtain ⟨x, y, lit, rfl⟩ | rfl := drawn.draw_or_update member <;> exact Bool.false_ne_true

namespace Machine

private theorem step_acyclic [Host η] (machine : Machine) (host : Recorded η) :
    ∃ made, (machine.step host).2.calls.toList = host.calls.toList ++ made ∧
      made.filter Call.isCyclic = [] := by
  have stepped := machine.step_stepped host
  generalize machine.step host = result at stepped ⊢
  cases stepped with
  | waited => exact ⟨[], (List.append_nil _).symm, rfl⟩
  | resumed => exact ⟨[], (List.append_nil _).symm, rfl⟩
  | unfetched => exact ⟨_, halt_calls .., rfl⟩
  | refused => exact ⟨_, halt_calls .., rfl⟩
  | @completed instruction flow active fetched done =>
    obtain ⟨made, calls, drawn⟩ := execute_draws done
    exact ⟨made, calls, drawn.acyclic⟩

private theorem pollInput_acyclic [Host η] (machine : Machine) (host : Recorded η) :
    ∃ made, (machine.pollInput host).2.calls.toList = host.calls.toList ++ made ∧
      made.filter Call.isCyclic = [] := by
  obtain ⟨made, calls, ⟨rfl, -⟩ | ⟨fault, rfl, -⟩⟩ := machine.pollInput_calls host
  · exact ⟨_, calls, rfl⟩
  · exact ⟨_, calls, rfl⟩

private theorem load_acyclic [Host η] (machine : Machine) (host : Recorded η) (program : List UInt8)
    (dialect : Dialect) :
    ∃ made, (machine.load host program dialect).2.calls.toList = host.calls.toList ++ made ∧
      made.filter Call.isCyclic = [] := by
  simp only [load]
  split
  · exact ⟨[], (List.append_nil _).symm, rfl⟩
  · exact ⟨_, halt_calls .., rfl⟩

/-- A timer cycle tells of nothing else. -/
theorem filter_isCyclic (machine : Machine) :
    (machine.soundCalls ++ machine.clearCalls).filter Call.isCyclic =
      machine.soundCalls ++ machine.clearCalls := by
  unfold soundCalls clearCalls
  split <;> split <;> rfl

/-- A processor step may stop the machine, and asks for a clear with the instruction for it. -/
theorem step_status [Host η] (machine : Machine) (host : η) :
    ∃ running, (machine.step host).1.status =
      { machine.status with
        running
        clearDisplay := machine.status.clearDisplay ||
          (machine.completes? host).any Instruction.requestsClear } := by
  have stepped := machine.step_stepped host
  generalize machine.step host = result at stepped ⊢
  cases stepped with
  | waited waiting up =>
    rw [completes?_of_waiting waiting, up, Option.map_none, Option.any_none, Bool.or_false]
    exact ⟨_, rfl⟩
  | @resumed x key waiting down =>
    have other : (Instruction.waitKey x).requestsClear = false := rfl
    rw [completes?_of_waiting waiting, down, Option.map_some, Option.any_some, other,
      Bool.or_false]
    exact ⟨_, rfl⟩
  | unfetched active missing =>
    rw [completes?_of_unfetched active missing, Option.any_none, Bool.or_false]
    exact ⟨false, rfl⟩
  | @refused instruction fault active fetched refuses =>
    rw [completes?_of_refuses active fetched refuses, Option.any_none, Bool.or_false]
    refine ⟨false, ?_⟩
    cases instruction <;> rfl
  | @completed instruction flow active fetched done =>
    have spares := machine.execute_spares host instruction
    have followed : ((machine.execute host instruction).machine.follow machine.registers.pc
        flow).status = (machine.execute host instruction).machine.status := by
      cases flow <;> rfl
    have asked : (machine.completes? host).any Instruction.requestsClear =
        instruction.requestsClear := by
      rcases completes_or_waits active fetched done with completed | ⟨⟨x, rfl⟩, waits⟩
      · rw [completed, Option.any_some]
      · rw [waits]
        rfl
    refine ⟨machine.status.running, ?_⟩
    rw [followed, spares.status, asked]
    cases instruction.requestsClear
    · rw [Bool.or_false]
      rfl
    · rw [Bool.or_true]
      rfl

end Machine

namespace Moment

def requestsClear [Host η] (moment : Moment η) : Bool :=
  moment.completed?.any Instruction.requestsClear

/-- Of the sound and of clears the host hears from timer cycles, and from nothing else. -/
theorem exists_made [Host η] (moment : Moment (Recorded η)) :
    ∃ made, moment.after.2.calls.toList = moment.host.calls.toList ++ made ∧
      made.filter Call.isCyclic =
        if moment.activity = .cycle then moment.machine.soundCalls ++ moment.machine.clearCalls
        else [] := by
  obtain ⟨activity, machine, host⟩ := moment
  cases activity with
  | load program dialect => exact machine.load_acyclic host program dialect
  | poll => exact machine.pollInput_acyclic host
  | step => exact machine.step_acyclic host
  | cycle => exact ⟨_, machine.tickTimers_calls host, machine.filter_isCyclic⟩
  | pause paused => exact ⟨[], (List.append_nil _).symm, rfl⟩
  | stop => exact ⟨[], (List.append_nil _).symm, rfl⟩

theorem soundActive_after [Host η] (moment : Moment η) :
    moment.after.1.status.soundActive =
      match moment.activity with
      | .load .. => false
      | .cycle => moment.machine.timers.tick.isAudible
      | _ => moment.machine.status.soundActive := by
  obtain ⟨activity, machine, host⟩ := moment
  cases activity with
  | load program dialect =>
    simp only [after, before, Activity.apply, Machine.load]
    split <;> rfl
  | poll =>
    obtain ⟨keypad, running, paused, fault, polled⟩ := machine.exists_pollInput host
    simp only [after, before, Activity.apply, polled]
  | step =>
    obtain ⟨running, status⟩ := machine.step_status host
    simp only [after, before, Activity.apply, status]
  | cycle => simp only [after, before, Activity.apply, Machine.tickTimers_machine]
  | pause paused => rfl
  | stop => rfl

theorem clearDisplay_after [Host η] (moment : Moment η) :
    moment.after.1.status.clearDisplay =
      match moment.activity with
      | .load .. | .cycle => false
      | _ => moment.machine.status.clearDisplay || moment.requestsClear := by
  obtain ⟨activity, machine, host⟩ := moment
  cases activity with
  | load program dialect =>
    simp only [after, before, Activity.apply, Machine.load]
    split <;> rfl
  | poll =>
    obtain ⟨keypad, running, paused, fault, polled⟩ := machine.exists_pollInput host
    simp only [after, before, Activity.apply, polled]
    exact (Bool.or_false _).symm
  | step =>
    obtain ⟨running, status⟩ := machine.step_status host
    simp only [after, before, Activity.apply, status]
    rfl
  | cycle => simp only [after, before, Activity.apply, Machine.tickTimers_machine]
  | pause paused => exact (Bool.or_false _).symm
  | stop => exact (Bool.or_false _).symm

end Moment

end Chip8
