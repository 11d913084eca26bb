import Chip8.Proofs.Cycles
import Chip8.Proofs.Loading

/-! # What the timers show

Both timers count down in every timer cycle and stay at zero. Each is written by one instruction,
and a load writes zero to both. So what a timer shows follows from the history of a run: the value
that was written last, less the cycles since then. `timers_eq_history` says so of the end of a run
and of every moment at which a program reads the delay timer, and says how the bit for the sound
follows from the last cycle.
-/

namespace Chip8

universe u

variable {η : Type u}

inductive Timer where
  | delay
  | sound
deriving DecidableEq, Repr

def Timers.count (timers : Timers) : Timer → UInt8
  | .delay => timers.delay
  | .sound => timers.sound

private theorem Timers.count_tick (timers : Timers) (timer : Timer) :
    timers.tick.count timer = countDown (timers.count timer) := by
  cases timer <;> rfl

/-- The register whose value an instruction writes to a timer, if it writes to that timer. -/
def Instruction.source? : Timer → Instruction → Option VIndex
  | .delay, .setDelay x => some x
  | .sound, .setSound x => some x
  | _, _ => none

namespace Machine

variable [Host η] {machine : Machine} {host : η}

private theorem execute_count (machine : Machine) (host : η) (instruction : Instruction)
    (timer : Timer) :
    (machine.execute host instruction).machine.timers.count timer =
      ((instruction.source? timer).map machine.registers.get).getD
        (machine.timers.count timer) := by
  have spares := machine.execute_spares host instruction
  cases instruction
  case setDelay x =>
    cases timer with
    | delay => rfl
    | sound => exact spares.sound nofun
  case setSound x =>
    cases timer with
    | delay => exact spares.delay nofun
    | sound => rfl
  all_goals
    cases timer with
    | delay => exact spares.delay nofun
    | sound => exact spares.sound nofun

/-- A processor step writes to a timer only if it completes the instruction for that. -/
theorem step_count (machine : Machine) (host : η) (timer : Timer) :
    (machine.step host).1.timers.count timer =
      (((machine.completes? host).bind (Instruction.source? timer)).map
        machine.registers.get).getD (machine.timers.count timer) := by
  have stepped := machine.step_stepped host
  generalize machine.step host = result at stepped ⊢
  cases stepped with
  | waited waiting up =>
    rw [completes?_of_waiting waiting, up]
    rfl
  | resumed waiting down =>
    rw [completes?_of_waiting waiting, down]
    cases timer <;> rfl
  | unfetched active missing =>
    rw [completes?_of_unfetched active missing]
    rfl
  | @refused instruction fault active fetched refuses =>
    rw [completes?_of_refuses active fetched refuses]
    cases instruction <;> rfl
  | @completed instruction flow active fetched done =>
    have followed : ((machine.execute host instruction).machine.follow machine.registers.pc
        flow).timers = (machine.execute host instruction).machine.timers := by
      cases flow <;> rfl
    rw [followed, execute_count]
    rcases completes_or_waits active fetched done with completed | ⟨⟨x, rfl⟩, waits⟩
    · rw [completed, Option.bind_some]
    · rw [waits]
      cases timer <;> rfl

/-- A program that reads the delay timer finds its count. -/
theorem get_of_readDelay {x : VIndex} (completed : machine.completes? host = some (.readDelay x)) :
    (machine.step host).1.registers.get x = machine.timers.delay := by
  obtain ⟨active, fetched, flow, done⟩ := done_of_completes? completed nofun
  rw [step_of_done active fetched done]
  cases done
  exact (machine.registers.get_set x x machine.timers.delay).trans (if_pos rfl)

end Machine

namespace Moment

variable [Host η]

/-- The value that a moment writes to a timer, if it writes to that timer. -/
def written? (timer : Timer) (moment : Moment η) : Option UInt8 :=
  match moment.activity with
  | .load .. => some 0
  | _ => (moment.completed?.bind (Instruction.source? timer)).map moment.machine.registers.get

private theorem count_after (timer : Timer) (moment : Moment η) :
    (moment.after.1.timers.count timer).toNat =
      match moment.written? timer with
      | some value => value.toNat
      | none =>
        (moment.machine.timers.count timer).toNat - [moment.activity].count .cycle := by
  obtain ⟨activity, machine, host⟩ := moment
  cases activity with
  | load program dialect =>
    simp only [after, before, Activity.apply, Machine.load_eq]
    cases timer <;> rfl
  | poll =>
    obtain ⟨keypad, running, paused, fault, polled⟩ := machine.exists_pollInput host
    simp only [after, before, Activity.apply, polled]
    rfl
  | step =>
    have stepped := machine.step_count host timer
    simp only [after, before, Activity.apply, stepped, written?, completed?]
    split
    · next value written => rw [written, Option.getD_some]
    · next untouched =>
      rw [untouched, Option.getD_none]
      rfl
  | cycle =>
    simp only [after, before, Activity.apply, Machine.tickTimers_machine, Timers.count_tick,
      Timers.toNat_countDown]
    rfl
  | pause paused => rfl
  | stop => rfl

/-- Whether the sound is on behind a moment that settles it. -/
def settled? (moment : Moment η) : Option Bool :=
  match moment.activity with
  | .load .. => some false
  | .cycle => some moment.after.1.timers.isAudible
  | _ => none

private theorem settled?_eq_some_true_iff {moment : Moment η} :
    moment.settled? = some true ↔
      moment.activity = .cycle ∧ moment.after.1.timers.sound ≠ 0 := by
  obtain ⟨activity, machine, host⟩ := moment
  cases activity <;> simp [settled?, Timers.isAudible]

private theorem settled?_eq_none_iff {moment : Moment η} :
    moment.settled? = none ↔ moment.activity ≠ .cycle ∧ moment.activity.isLoad = false := by
  obtain ⟨activity, machine, host⟩ := moment
  cases activity <;> simp [settled?, Activity.isLoad]

end Moment

namespace Timer

variable [Host η]

/-- The value that some moments were the last to write to a timer, and zero if none wrote to it. -/
def lastWritten (timer : Timer) (moments : List (Moment η)) : UInt8 :=
  (latest? (Moment.written? timer) moments).getD 0

/-- The number of timer cycles since a timer was last written to, or of all if it never was. -/
def cyclesSince (timer : Timer) (moments : List (Moment η)) : Nat :=
  ((since (fun moment => (moment.written? timer).isSome) moments).map Moment.activity).count .cycle

private theorem lastWritten_concat (timer : Timer) (moments : List (Moment η)) (moment : Moment η) :
    timer.lastWritten (moments ++ [moment]) =
      (moment.written? timer).getD (timer.lastWritten moments) := by
  rw [lastWritten, latest?_concat]
  cases moment.written? timer <;> rfl

private theorem cyclesSince_concat (timer : Timer) (moments : List (Moment η)) (moment : Moment η) :
    timer.cyclesSince (moments ++ [moment]) =
      if (moment.written? timer).isSome then 0
      else timer.cyclesSince moments + [moment.activity].count .cycle := by
  rw [cyclesSince, since_concat]
  split
  · rfl
  · rw [List.map_append, List.count_append]
    rfl

end Timer

namespace Chain

variable [Host η] {start final : Machine × η} {moments : List (Moment η)}

/-- From zero on, a timer shows what was last written to it, less the cycles since. -/
theorem count (chain : Chain start moments final) (timer : Timer)
    (zero : start.1.timers.count timer = 0) :
    (final.1.timers.count timer).toNat =
      (timer.lastWritten moments).toNat - timer.cyclesSince moments := by
  refine chain.tracks (fun past state => (state.1.timers.count timer).toNat =
    (timer.lastWritten past).toNat - timer.cyclesSince past) ?_ ?_
  · intro past moment _ before
    have before : (moment.machine.timers.count timer).toNat =
        (timer.lastWritten past).toNat - timer.cyclesSince past := before
    rw [moment.count_after, timer.lastWritten_concat, timer.cyclesSince_concat]
    cases moment.written? timer with
    | some value => rfl
    | none =>
      simp only [before, Option.getD_none, Option.isSome_none, Bool.false_eq_true, if_false]
      exact Nat.sub_sub ..
  · rw [zero]
    rfl

/-- A timer to which nothing is written counts every cycle. -/
theorem count_of_unwritten (chain : Chain start moments final) {timer : Timer}
    (unwritten : ∀ moment ∈ moments, moment.written? timer = none) :
    (final.1.timers.count timer).toNat =
      (start.1.timers.count timer).toNat - (moments.map Moment.activity).count .cycle := by
  induction chain with
  | nil => rfl
  | @cons moment rest final running tail ih =>
    obtain ⟨first, others⟩ := List.forall_mem_cons.mp unwritten
    have counted := moment.count_after timer
    rw [first] at counted
    rw [ih others, counted, List.map_cons, Nat.sub_sub, ← List.count_append]
    rfl

/-- The bit for the sound is as the last moment has left it that settles it. -/
theorem soundActive (chain : Chain start moments final)
    (off : start.1.status.soundActive = false) :
    final.1.status.soundActive = (latest? Moment.settled? moments).getD false := by
  refine chain.tracks (fun past state => state.1.status.soundActive =
    (latest? Moment.settled? past).getD false) ?_ off
  intro past moment _ before
  have before : moment.machine.status.soundActive =
    (latest? Moment.settled? past).getD false := before
  rw [moment.soundActive_after, latest?_concat]
  obtain ⟨activity, machine, host⟩ := moment
  cases activity with
  | load => rfl
  | cycle =>
    simp only [Moment.settled?, Moment.after, Moment.before, Activity.apply,
      Machine.tickTimers_machine, Option.some_or, Option.getD_some]
  | _ => exact before

end Chain

namespace Console

/-- From a load on, a timer shows the value that was written to it last, or zero if none was, less
the timer cycles since then. That is also what a program reads from the delay timer. The sound is on
just if there was a cycle since the load, and the last one has left the sound timer above zero. -/
theorem timers_eq_history [Host η] (console : Console η) (program : List UInt8)
    (dialect : Dialect) (operations : List Operation) :
    let loaded := console.load program dialect
    let history := loaded.history operations
    let after := (loaded.run operations).machine
    (∀ timer, (after.timers.count timer).toNat =
      (timer.lastWritten history).toNat - timer.cyclesSince history) ∧
    (∀ past moment future x, history = past ++ moment :: future →
      moment.completed? = some (.readDelay x) →
        (moment.after.1.registers.get x).toNat =
          (Timer.delay.lastWritten past).toNat - Timer.delay.cyclesSince past) ∧
    (after.status.soundActive = true ↔ ∃ past cycle future,
      history = past ++ cycle :: future ∧ cycle.activity = .cycle ∧
        cycle.after.1.timers.sound ≠ 0 ∧
        ∀ later ∈ future, later.activity ≠ .cycle ∧ later.activity.isLoad = false) := by
  intro loaded history after
  have chain : Chain loaded.state history (loaded.run operations).state :=
    loaded.chain_history operations
  have zero (timer : Timer) : loaded.machine.timers.count timer = 0 := by
    rw [machine_load]
    cases timer <;> rfl
  have off : loaded.machine.status.soundActive = false := by
    rw [machine_load]
    rfl
  refine ⟨fun timer => chain.count timer (zero timer), ?_, ?_⟩
  · intro past moment future x cut completed
    rw [cut] at chain
    have shown : (moment.machine.timers.count .delay).toNat =
        (Timer.delay.lastWritten past).toNat - Timer.delay.cyclesSince past :=
      chain.around.1.count .delay (zero .delay)
    obtain ⟨activity, machine, host⟩ := moment
    cases activity with
    | step =>
      have read : (machine.step host).1.registers.get x = machine.timers.delay :=
        Machine.get_of_readDelay completed
      exact (congrArg UInt8.toNat read).trans shown
    | _ => contradiction
  · have settled : after.status.soundActive = (latest? Moment.settled? history).getD false :=
      chain.soundActive off
    have last : (latest? Moment.settled? history).getD false = true ↔
        latest? Moment.settled? history = some true := by
      cases latest? Moment.settled? history <;> simp
    rw [settled, last, latest?_eq_some_iff]
    simp only [Moment.settled?_eq_some_true_iff, Moment.settled?_eq_none_iff, and_assoc]

end Console

end Chip8
