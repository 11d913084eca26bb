import Chip8.Proofs.Cycles
import Chip8.Proofs.Drawing
import Chip8.Proofs.Loading

/-! # Deferred clears

A program asks for a clear screen and goes on; the host is told in the next timer cycle, once for
all requests since the last one. So the bit for a pending clear says whether there was a request
since the last timer cycle or load, and what is on a terminal are the sprites that were drawn since
the last cycle that sent a clear. `clear_is_deferred` puts these together.
-/

namespace Chip8

universe u

variable {η : Type u}

def Call.clears : Call → Bool
  | .screen signal => signal.clear
  | _ => false

private theorem Call.isCyclic_of_clears {call : Call} (clears : call.clears = true) :
    call.isCyclic = true := by
  cases call with
  | screen signal => exact clears
  | _ => contradiction

namespace Machine

private theorem filter_clears (machine : Machine) :
    (machine.soundCalls ++ machine.clearCalls).filter Call.clears = machine.clearCalls := by
  unfold soundCalls clearCalls
  split <;> split <;> rfl

/-- A step draws on a terminal what the sprite covers that it completes, if it completes one. -/
theorem step_frame (machine : Machine) (terminal : Terminal) (column line : Nat) :
    (machine.step terminal).2.frame.isLit column line =
      (terminal.frame.isLit column line ^^
        (machine.completes? terminal).any (machine.draws (column, line))) := by
  have stepped := machine.step_stepped terminal
  generalize machine.step terminal = result at stepped ⊢
  cases stepped with
  | waited waiting up =>
    rw [completes?_of_waiting waiting, up]
    exact (Bool.xor_false _).symm
  | resumed waiting down =>
    rw [completes?_of_waiting waiting, down]
    exact (Bool.xor_false _).symm
  | unfetched active missing =>
    rw [completes?_of_unfetched active missing]
    exact (Bool.xor_false _).symm
  | refused active fetched refuses =>
    rw [completes?_of_refuses active fetched refuses]
    exact (Bool.xor_false _).symm
  | completed active fetched done =>
    obtain ⟨frame, frames, drawn, flipped⟩ := execute_terminal done
    rw [drawn]
    change frame.isLit column line = _
    rw [flipped]
    rcases completes_or_waits active fetched done with completed | ⟨⟨x, rfl⟩, waits⟩
    · rw [completed, Option.any_some]
    · rw [waits]
      rfl

private theorem pollInput_frame (machine : Machine) (terminal : Terminal) :
    (machine.pollInput terminal).2.frame = terminal.frame := by
  have asked : (Host.poll terminal (.idle machine.isPaused)).2.frame = terminal.frame := by
    simp only [Host.poll]
    split <;> rfl
  simp only [pollInput, press]
  split
  · split
    · exact asked
    · exact asked
  · exact asked

/-- A timer cycle does nothing to a terminal but start the buzzer and clear the frame. -/
theorem tickTimers_terminal (machine : Machine) (terminal : Terminal) :
    ∃ beeps, (machine.tickTimers terminal).2 =
      { terminal with
        frame := if machine.status.clearDisplay then .blank else terminal.frame
        beeps } := by
  obtain ⟨beeps, sounded⟩ : ∃ beeps, (machine.tickSound terminal).2 = { terminal with beeps } := by
    simp only [tickSound, Host.sound]
    split
    · split <;> exact ⟨_, rfl⟩
    · exact ⟨_, rfl⟩
  have pending : (machine.tickSound terminal).1.status.clearDisplay = machine.status.clearDisplay :=
    rfl
  refine ⟨beeps, ?_⟩
  simp only [tickTimers, flushClear, pending, sounded]
  split <;> rfl

end Machine

namespace Moment

variable [Host η]

/-- Whether requests for a clear from before a moment are over with it. -/
def endsRequests (moment : Moment η) : Bool :=
  moment.activity == .cycle || moment.activity.isLoad

/-- Whether a moment is a timer cycle that sends a clear to the host. -/
def sendsClear (moment : Moment η) : Bool :=
  moment.activity == .cycle && moment.machine.status.clearDisplay

/-- Whether a moment completes a sprite that has a point in its mask. -/
def covers (moment : Moment η) (point : Nat × Nat) : Bool :=
  moment.completed?.any (moment.machine.draws point)

end Moment

/-- Whether there was a request for a clear since the last timer cycle or load. -/
def clearPending [Host η] (moments : List (Moment η)) : Bool :=
  (since Moment.endsRequests moments).any Moment.requestsClear

namespace Moment

private theorem exists_clears [Host η] (moment : Moment (Recorded η)) :
    ∃ made, moment.after.2.calls.toList = moment.host.calls.toList ++ made ∧
      made.filter Call.clears = if moment.sendsClear then [.screen .clearing] else [] := by
  obtain ⟨made, calls, cyclic⟩ := moment.exists_made
  refine ⟨made, calls, ?_⟩
  have only : made.filter Call.clears = (made.filter Call.isCyclic).filter Call.clears := by
    rw [List.filter_filter]
    refine List.filter_congr fun call _ => ?_
    cases clears : call.clears with
    | false => rfl
    | true => rw [Call.isCyclic_of_clears clears, Bool.and_true]
  rw [only, cyclic]
  by_cases cycle : moment.activity = .cycle
  · rw [if_pos cycle, Machine.filter_clears, sendsClear, cycle]
    rfl
  · rw [if_neg cycle, sendsClear, beq_eq_false_iff_ne.mpr cycle]
    rfl

/-- A moment adds to a terminal what its sprite covers, unless it clears all. -/
theorem frame_after (moment : Moment Terminal) (column line : Nat) :
    moment.after.2.frame.isLit column line =
      (!moment.sendsClear &&
        (moment.host.frame.isLit column line ^^ moment.covers (column, line))) := by
  obtain ⟨activity, machine, terminal⟩ := moment
  cases activity with
  | load program dialect =>
    simp only [after, before, Activity.apply, Machine.load_eq]
    split <;> exact (Bool.xor_false _).symm
  | poll =>
    simp only [after, before, Activity.apply, machine.pollInput_frame]
    exact (Bool.xor_false _).symm
  | step => exact machine.step_frame terminal column line
  | cycle =>
    obtain ⟨beeps, ticked⟩ := machine.tickTimers_terminal terminal
    simp only [after, before, Activity.apply, ticked, sendsClear]
    cases machine.status.clearDisplay
    · exact (Bool.xor_false _).symm
    · exact Frame.isLit_blank column line
  | pause paused => exact (Bool.xor_false _).symm
  | stop => exact (Bool.xor_false _).symm

end Moment

namespace Chain

/-- The bit for a pending clear says whether there was a request. -/
theorem clearDisplay [Host η] {start final : Machine × η} {moments : List (Moment η)}
    (chain : Chain start moments final) (idle : start.1.status.clearDisplay = false) :
    final.1.status.clearDisplay = clearPending moments := by
  refine chain.tracks (fun past state => state.1.status.clearDisplay =
    clearPending past) ?_ idle
  intro past moment _ before
  have before : moment.machine.status.clearDisplay = clearPending past := before
  rw [moment.clearDisplay_after, clearPending, any_since_concat, ← clearPending, ← before]
  obtain ⟨activity, machine, host⟩ := moment
  cases activity <;> rfl

/-- What a terminal shows are the sprites since the last clear, one over the other, on a blank frame
or on the one that was there if there was no clear. -/
theorem frame {start final : Machine × Terminal} {moments : List (Moment Terminal)}
    (chain : Chain start moments final) (column line : Nat) :
    final.2.frame.isLit column line =
      (since Moment.sendsClear moments).foldl
        (fun lit moment => lit ^^ moment.covers (column, line))
        ((if moments.any Moment.sendsClear then Frame.blank else start.2.frame).isLit
          column line) := by
  refine chain.tracks (fun past state => state.2.frame.isLit column line =
      (since Moment.sendsClear past).foldl
        (fun lit moment => lit ^^ moment.covers (column, line))
        ((if past.any Moment.sendsClear then Frame.blank else start.2.frame).isLit
          column line)) ?_ rfl
  intro past moment _ before
  have before : moment.host.frame.isLit column line = _ := before
  rw [moment.frame_after, before, since_concat, List.any_append]
  cases cleared : moment.sendsClear with
  | true =>
    simp only [List.any_cons, cleared, Bool.true_or, Bool.or_true, if_true, List.foldl_nil,
      Frame.isLit_blank]
    rfl
  | false =>
    simp only [List.any_cons, List.any_nil, cleared, Bool.or_false, Bool.false_eq_true, if_false,
      List.foldl_append, List.foldl_cons, List.foldl_nil]
    rfl

end Chain

namespace Console

/-- From a load on, a timer cycle sends a clear if one was asked for since the cycle before it or
since the load, and sends it once; nothing else sends one. The bit for a pending clear says whether
one was asked for. What a terminal shows are the sprites drawn since the last cycle that sent a
clear, on a blank frame, or all of them on the frame at the load if no cycle sent one. -/
theorem clear_is_deferred :
    (∀ {η : Type u} [Host η] (console : Console η) (program : List UInt8) (dialect : Dialect)
      (operations : List Operation),
      let loaded := console.load program dialect
      let history := loaded.history operations
      (loaded.run operations).machine.status.clearDisplay = clearPending history ∧
        ∀ past moment future, history = past ++ moment :: future →
          moment.sendsClear = (moment.activity == .cycle && clearPending past)) ∧
    (∀ {η : Type u} [Host η] (moment : Moment (Recorded η)),
      ∃ made, moment.after.2.calls.toList = moment.host.calls.toList ++ made ∧
        made.filter Call.clears = if moment.sendsClear then [.screen .clearing] else []) ∧
    ∀ (console : Console Terminal) (program : List UInt8) (dialect : Dialect)
      (operations : List Operation) (column line : Nat),
      let loaded := console.load program dialect
      let history := loaded.history operations
      let base := if history.any Moment.sendsClear then Frame.blank else console.host.frame
      (loaded.run operations).host.frame.isLit column line =
        (since Moment.sendsClear history).foldl
          (fun lit moment => lit ^^ moment.covers (column, line)) (base.isLit column line) := by
  refine ⟨?_, fun moment => moment.exists_clears, ?_⟩
  · intro η _ console program dialect operations loaded history
    have chain : Chain loaded.state history (loaded.run operations).state :=
      loaded.chain_history operations
    have idle : loaded.machine.status.clearDisplay = false := by
      rw [machine_load]
      rfl
    refine ⟨chain.clearDisplay idle, ?_⟩
    intro past moment future cut
    rw [cut] at chain
    have pending : moment.machine.status.clearDisplay = clearPending past :=
      chain.around.1.clearDisplay idle
    rw [Moment.sendsClear, pending]
  · intro console program dialect operations column line loaded history base
    have kept : loaded.host.frame = console.host.frame := by
      simp only [loaded, load, act, Machine.load_eq]
      split <;> rfl
    have chain : Chain loaded.state history (loaded.run operations).state :=
      loaded.chain_history operations
    have shown := chain.frame column line
    rwa [show loaded.state.2.frame = console.host.frame from kept] at shown

end Console

end Chip8
