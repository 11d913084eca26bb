import Chip8.Proofs.Footprint
import Chip8.Proofs.Polling
import Chip8.Proofs.Ticks

/-! # Pauses

A pause holds the processor and its cadence, and nothing else. `Console.Held` describes runs in
which the processor is held, or not due, whenever a tick gets as far as its stage, whoever has held
it. Such a run comes to polls and timer cycles only, which leave the processor `Frozen`; what they
do to the rest follows from their number: `Idled`. `run_of_held` puts this together, and says that
the other cadences go on and that the step behind the pause is about the instruction at which the
processor was held.
-/

namespace Chip8

universe u

variable {η : Type u}

/-- Whether a call puts something on the screen. -/
def Call.shows : Call → Bool
  | .draw .. => true
  | .screen signal => signal.update
  | _ => false

/-- Whether an activity is one of those that a held processor leaves possible. -/
def Activity.isStill : Activity → Bool
  | .poll | .cycle | .pause _ => true
  | .load .. | .step | .stop => false

namespace Machine

/-- What a processor works on, and what it draws from, is as it was. -/
structure Frozen (before after : Machine) : Prop extends before.Rests after where
  mode : after.mode = before.mode
  dialect : after.dialect = before.dialect
  random : after.random = before.random

namespace Frozen

private theorem refl (machine : Machine) : machine.Frozen machine := ⟨.refl machine, rfl, rfl, rfl⟩

private theorem trans {before middle after : Machine} (first : before.Frozen middle)
    (second : middle.Frozen after) : before.Frozen after where
  toRests := first.toRests.trans second.toRests
  mode := second.mode.trans first.mode
  dialect := second.dialect.trans first.dialect
  random := second.random.trans first.random

private theorem current?_eq {before after : Machine} (frozen : before.Frozen after) :
    after.current? = before.current? := by
  simp only [current?, instructionAt, frozen.mode, frozen.registers, frozen.memory]

end Frozen

/-- What a machine came to while its processor was held, after some timer cycles and with some calls
to the host. A pending clear is sent by the first cycle. -/
structure Idled (before after : Machine) (elapsed : Nat) (made : List Call) : Prop
    extends before.Frozen after where
  delay : after.timers.delay.toNat = before.timers.delay.toNat - elapsed
  sound : after.timers.sound.toNat = before.timers.sound.toNat - elapsed
  pending : after.status.clearDisplay = (before.status.clearDisplay && elapsed == 0)
  hidden : ∀ call ∈ made, call.shows = false
  clears : made.count (.screen .clearing) =
    if before.status.clearDisplay ∧ 0 < elapsed then 1 else 0

namespace Idled

variable {before middle after : Machine} {made later : List Call}

/-- Without a timer cycle, neither the timers nor a pending clear are touched. -/
theorem of_kept (frozen : before.Frozen after) (timers : after.timers = before.timers)
    (pending : after.status.clearDisplay = before.status.clearDisplay)
    (hidden : ∀ call ∈ made, call.shows = false) (silent : .screen .clearing ∉ made) :
    before.Idled after 0 made where
  toFrozen := frozen
  delay := by rw [timers, Nat.sub_zero]
  sound := by rw [timers, Nat.sub_zero]
  pending := by rw [pending, beq_self_eq_true, Bool.and_true]
  hidden := hidden
  clears := by
    rw [List.count_eq_zero_of_not_mem silent, if_neg]
    exact fun cleared => Nat.lt_irrefl 0 cleared.2

private theorem trans {first second : Nat} (left : before.Idled middle first made)
    (right : middle.Idled after second later) :
    before.Idled after (first + second) (made ++ later) where
  toFrozen := left.toFrozen.trans right.toFrozen
  delay := by rw [right.delay, left.delay, Nat.sub_sub]
  sound := by rw [right.sound, left.sound, Nat.sub_sub]
  pending := by
    rw [right.pending, left.pending, Bool.and_assoc]
    cases first <;> simp
  hidden call member := (List.mem_append.mp member).elim (left.hidden call) (right.hidden call)
  clears := by
    rw [List.count_append, left.clears, right.clears, left.pending]
    cases first with
    | zero => simp
    | succ first =>
      have positive : 0 < first + 1 + second := by omega
      simp [positive]

end Idled

section Activities

variable [Host η] (machine : Machine)

private theorem frozen_pollInput (host : η) : machine.Frozen (machine.pollInput host).1 := by
  obtain ⟨keypad, running, paused, fault, polled⟩ := machine.exists_pollInput host
  rw [polled]
  exact ⟨⟨rfl, rfl, rfl⟩, rfl, rfl, rfl⟩

private theorem idled_pollInput (host : Recorded η) :
    ∃ made, (machine.pollInput host).2.calls.toList = host.calls.toList ++ made ∧
      machine.Idled (machine.pollInput host).1 0 made := by
  obtain ⟨made, calls, asked⟩ := machine.pollInput_calls host
  obtain ⟨keypad, running, paused, fault, polled⟩ := machine.exists_pollInput host
  have frozen := machine.frozen_pollInput host
  rw [polled] at frozen ⊢
  refine ⟨made, calls, .of_kept frozen rfl rfl ?_ ?_⟩
  · rcases asked with ⟨rfl, -⟩ | ⟨fault, rfl, -⟩ <;> simp [Call.shows]
  · rcases asked with ⟨rfl, -⟩ | ⟨fault, rfl, -⟩ <;> simp

private theorem idled_tickTimers (host : Recorded η) :
    ∃ made, (machine.tickTimers host).2.calls.toList = host.calls.toList ++ made ∧
      machine.Idled (machine.tickTimers host).1 1 made := by
  rw [tickTimers_machine]
  refine ⟨_, machine.tickTimers_calls host, ⟨⟨⟨rfl, rfl, rfl⟩, rfl, rfl, rfl⟩, ?_, ?_, ?_, ?_, ?_⟩⟩
  · exact Timers.toNat_countDown _
  · exact Timers.toNat_countDown _
  · exact (Bool.and_false _).symm
  · unfold soundCalls clearCalls
    split <;> split <;> simp [Call.shows, Signal.clearing]
  · unfold soundCalls clearCalls
    split <;> split <;> simp_all

end Activities

end Machine

private theorem Moment.idled [Host η] {moment : Moment (Recorded η)}
    (still : moment.activity.isStill = true) :
    ∃ made, moment.after.2.calls.toList = moment.host.calls.toList ++ made ∧
      moment.machine.Idled moment.after.1 ([moment.activity].count .cycle) made := by
  obtain ⟨activity, machine, host⟩ := moment
  cases activity with
  | poll => exact machine.idled_pollInput host
  | cycle => exact machine.idled_tickTimers host
  | pause paused =>
    have frozen : machine.Frozen { machine with status.paused := paused } :=
      ⟨⟨rfl, rfl, rfl⟩, rfl, rfl, rfl⟩
    exact ⟨[], (List.append_nil _).symm, .of_kept frozen rfl rfl nofun nofun⟩
  | _ => contradiction

/-- Activities that leave the processor alone do so one after the other. -/
theorem Chain.idled [Host η] {start final : Machine × Recorded η}
    {moments : List (Moment (Recorded η))} (chain : Chain start moments final)
    (still : ∀ moment ∈ moments, moment.activity.isStill = true) :
    ∃ made, final.2.calls.toList = start.2.calls.toList ++ made ∧
      start.1.Idled final.1 ((moments.map Moment.activity).count .cycle) made := by
  induction chain with
  | nil state => exact ⟨[], (List.append_nil _).symm, .of_kept (.refl _) rfl rfl nofun nofun⟩
  | @cons moment rest final running tail ih =>
    obtain ⟨first, others⟩ := List.forall_mem_cons.mp still
    obtain ⟨made, calls, idled⟩ := Moment.idled first
    obtain ⟨later, calls', idled'⟩ := ih others
    refine ⟨made ++ later, ?_, ?_⟩
    · rw [calls', calls, List.append_assoc]
      rfl
    · rw [List.map_cons, ← List.singleton_append, List.count_append]
      exact idled.trans idled'

/-- A cadence after it was asked at some times in turn. -/
def Cadence.asked (cadence : Cadence) (times : List UInt32) : Cadence :=
  times.foldl (fun cadence now => (cadence.fire now).2) cadence

def Operation.time? : Operation → Option UInt32
  | .tickAt now => some now
  | _ => none

namespace Console

/-- Ticks and pauses, with the processor held or not due whenever a tick gets to its stage. It may
be held by the owner of the console before the tick, or by the host in the poll of the tick. -/
inductive Held [Host η] : Console η → List Operation → Prop
  | nil (console : Console η) : Held console []
  | pause {console : Console η} {paused : Bool} {rest : List Operation}
      (tail : Held (console.pause paused) rest) : Held console (.pause paused :: rest)
  | tick {console : Console η} {now : UInt32} {rest : List Operation}
      (idle : (console.whenRunning (pollStage now)).isRunning = true →
        (console.whenRunning (pollStage now)).isPaused = true ∨
          (console.whenRunning (pollStage now)).schedule.cpu.isDue now = false)
      (tail : Held (console.tickAt now) rest) : Held console (.tickAt now :: rest)

variable [Host η] {console : Console η} {now : UInt32} {operations first second : List Operation}

private theorem whenRunning_cpuStage_of_idle (idle : console.isRunning = true →
      console.isPaused = true ∨ console.schedule.cpu.isDue now = false) :
    console.whenRunning (cpuStage now) = console := by
  unfold whenRunning
  split
  · next running => exact cpuStage_of_idle (idle running)
  · rfl

omit [Host η] in
private theorem momentIf_step_of_idle (idle : console.isRunning = true →
      console.isPaused = true ∨ console.schedule.cpu.isDue now = false) :
    console.momentIf (!console.isPaused && console.schedule.cpu.isDue now) .step = [] := by
  cases running : console.isRunning with
  | false => simp only [momentIf, running, Bool.false_and, Bool.false_eq_true, if_false]
  | true =>
    rcases idle running with paused | early
    · simp only [momentIf, paused, Bool.not_true, Bool.false_and, Bool.and_false,
        Bool.false_eq_true, if_false]
    · simp only [momentIf, early, Bool.and_false, Bool.false_eq_true, if_false]

/-- A run in which the processor is held comes to nothing that would touch it. -/
theorem Held.isStill (held : console.Held operations) {moment : Moment η}
    (member : moment ∈ console.history operations) : moment.activity.isStill = true := by
  induction held with
  | nil => contradiction
  | pause tail ih =>
    rcases List.mem_cons.mp member with rfl | later
    · rfl
    · exact ih later
  | @tick console now rest idle tail ih =>
    rcases List.mem_append.mp member with here | later
    · simp only [moments, momentIf_step_of_idle idle, List.append_nil] at here
      rcases List.mem_append.mp here with poll | cycle
      · rw [activity_of_mem_momentIf poll]
        rfl
      · rw [activity_of_mem_momentIf cycle]
        rfl
    · exact ih later

private theorem held_append_iff : console.Held (first ++ second) ↔
    console.Held first ∧ (console.run first).Held second := by
  constructor
  · intro held
    induction first generalizing console with
    | nil => exact ⟨.nil console, held⟩
    | cons operation rest ih =>
      cases held with
      | pause tail =>
        obtain ⟨left, right⟩ := ih tail
        exact ⟨.pause left, right⟩
      | tick idle tail =>
        obtain ⟨left, right⟩ := ih tail
        exact ⟨.tick idle left, right⟩
  · rintro ⟨left, right⟩
    induction left with
    | nil => exact right
    | pause _ ih => exact .pause (ih right)
    | tick idle _ ih => exact .tick idle (ih right)

/-- Neither a tick nor a pause starts a machine. -/
theorem Held.isRunning (held : console.Held operations)
    (running : (console.run operations).isRunning = true) : console.isRunning = true := by
  induction held with
  | nil => exact running
  | pause _ ih => exact ih running
  | tick _ _ ih => exact (stages_of_running (ih running)).1

private theorem cpu_whenRunning_pollStage (console : Console η) (now : UInt32) :
    (console.whenRunning (pollStage now)).schedule.cpu = console.schedule.cpu :=
  whenRunning_keeps (·.schedule.cpu) (by rw [schedule_pollStage])

/-- A processor that is held keeps its cadence. -/
theorem Held.schedule_cpu (held : console.Held operations) :
    (console.run operations).schedule.cpu = console.schedule.cpu := by
  induction held with
  | nil => rfl
  | pause _ ih => exact ih
  | @tick console now rest idle tail ih =>
    have ticked : (console.tickAt now).schedule.cpu = console.schedule.cpu := by
      rw [tickAt, whenRunning_cpuStage_of_idle idle,
        whenRunning_keeps (·.schedule.cpu) (by rw [schedule_timerStage]), cpu_whenRunning_pollStage]
    exact ih.trans ticked

/-- The other cadences go on as if they were alone, until the machine is stopped. -/
theorem Held.schedule_others (held : console.Held operations)
    (running : (console.run operations).isRunning = true) :
    (console.run operations).schedule.input =
        console.schedule.input.asked (operations.filterMap Operation.time?) ∧
      (console.run operations).schedule.timers =
        console.schedule.timers.asked (operations.filterMap Operation.time?) := by
  induction held with
  | nil => exact ⟨rfl, rfl⟩
  | pause _ ih => exact ih running
  | tick _ tail ih =>
    obtain ⟨input, timers⟩ := ih running
    rw [schedule_tickAt (tail.isRunning running)] at input timers
    exact ⟨input, timers⟩

/-- A tick that leaves the machine running polls and cycles as the cadences alone would have it. -/
theorem Held.activities_tick {past future : List Operation}
    (held : console.Held (past ++ .tickAt now :: future))
    (running : ((console.run past).tickAt now).isRunning = true) :
    (console.run past).activities [.tickAt now] =
      (if (console.schedule.input.asked (past.filterMap Operation.time?)).isDue now then [.poll]
        else []) ++
      (if (console.schedule.timers.asked (past.filterMap Operation.time?)).isDue now then [.cycle]
        else []) := by
  obtain ⟨left, right⟩ := held_append_iff.mp held
  cases right with
  | tick idle tail =>
    obtain ⟨before, polled, -, -⟩ := stages_of_running running
    obtain ⟨input, timers⟩ := left.schedule_others before
    rw [whenRunning_of_running before] at idle
    have quiet : (!((console.run past).tickAt now).isPaused &&
        (console.run past).schedule.cpu.isDue now) = false := by
      rw [isPaused_tickAt running]
      rcases idle polled with paused | early
      · rw [paused]
        rfl
      · rw [schedule_pollStage] at early
        rw [early, Bool.and_false]
    have ticked := activities_tickAt running
    simp only [quiet, Bool.false_eq_true, if_false, List.append_nil, input, timers] at ticked
    simpa only [activities, history, List.append_nil] using ticked

private theorem frozen_whenRunning_pollStage (console : Console η) (now : UInt32) :
    console.machine.Frozen (console.whenRunning (pollStage now)).machine := by
  unfold whenRunning
  split
  · have polled := congrArg Prod.fst (console.state_pollStage now)
    have machine : (pollStage now console).machine =
        if console.schedule.input.isDue now then (console.machine.pollInput console.host).1
        else console.machine := polled.trans (apply_ite Prod.fst _ _ _)
    rw [machine]
    split
    · exact console.machine.frozen_pollInput console.host
    · exact .refl console.machine
  · exact .refl console.machine

/-- What the host is told, and what becomes of the machine, while the processor is held. -/
private theorem Held.made {console : Console (Recorded η)} (held : console.Held operations) :
    ∃ made, (console.run operations).host.calls.toList = console.host.calls.toList ++ made ∧
      made.countP Call.isPoll = (console.activities operations).count .poll ∧
      console.machine.Idled (console.run operations).machine
        ((console.activities operations).count .cycle) made := by
  have chain := console.chain_history operations
  obtain ⟨made, calls, idled⟩ := chain.idled fun _ => held.isStill
  have polled := chain.countP_isPoll
  rw [calls, List.countP_append] at polled
  exact ⟨made, calls, Nat.add_left_cancel polled, idled⟩

private theorem count_due (polls cycles : Bool) :
    let due := (if polls then [Activity.poll] else []) ++ (if cycles then [.cycle] else [])
    due.count .poll = polls.toNat ∧ due.count .cycle = cycles.toNat := by
  cases polls <;> cases cycles <;> exact ⟨rfl, rfl⟩

/-- A held tick that leaves the machine running polls the host, and runs a timer cycle, as the
cadences alone would have it. -/
private theorem Held.made_tick {console : Console (Recorded η)} {past future : List Operation}
    (held : console.Held (past ++ .tickAt now :: future))
    (running : ((console.run past).tickAt now).isRunning = true) :
    let polls := (console.schedule.input.asked (past.filterMap Operation.time?)).isDue now
    let cycles := (console.schedule.timers.asked (past.filterMap Operation.time?)).isDue now
    (console.run past).activities [.tickAt now] =
        (if polls then [.poll] else []) ++ (if cycles then [.cycle] else []) ∧
      ∃ made, ((console.run past).tickAt now).host.calls.toList =
          (console.run past).host.calls.toList ++ made ∧
        made.countP Call.isPoll = polls.toNat ∧
        (console.run past).machine.Idled ((console.run past).tickAt now).machine cycles.toNat
          made := by
  intro polls cycles
  have activities : (console.run past).activities [.tickAt now] =
      (if polls then [.poll] else []) ++ (if cycles then [.cycle] else []) :=
    held.activities_tick running
  have single : (console.run past).Held [.tickAt now] := by
    cases (held_append_iff.mp held).2 with
    | tick idle _ => exact .tick idle (.nil _)
  obtain ⟨made, calls, polled, idled⟩ := single.made
  obtain ⟨poll, cycle⟩ := count_due polls cycles
  rw [activities, poll] at polled
  rw [activities, cycle] at idled
  exact ⟨activities, made, calls, polled, idled⟩

/-- A run in which the processor is held leaves it and its cadence alone, and shows nothing. The
other cadences go on: until the machine is stopped the host is polled, and the timers cycle, at the
ticks where that is due, and so many cycles count the timers down and send a pending clear once. The
first tick that finds the processor free and due goes on from where it was held, with the
instruction that it was about then. -/
theorem run_of_held {console : Console (Recorded η)} (standard : console.schedule.reset = .initial)
    {operations : List Operation} (held : console.Held operations) :
    let after := console.run operations
    (∃ made, after.host.calls.toList = console.host.calls.toList ++ made ∧
      made.countP Call.isPoll = (console.activities operations).count .poll ∧
      console.machine.Idled after.machine ((console.activities operations).count .cycle) made) ∧
    after.schedule.cpu = console.schedule.cpu ∧
    (∀ past now future, operations = past ++ .tickAt now :: future →
      let start := console.run past
      let polls := (console.schedule.input.asked (past.filterMap Operation.time?)).isDue now
      let cycles := (console.schedule.timers.asked (past.filterMap Operation.time?)).isDue now
      (start.tickAt now).isRunning = true →
        start.activities [.tickAt now] =
            (if polls then [.poll] else []) ++ (if cycles then [.cycle] else []) ∧
          ∃ made, (start.tickAt now).host.calls.toList = start.host.calls.toList ++ made ∧
            made.countP Call.isPoll = polls.toNat ∧
            start.machine.Idled (start.tickAt now).machine cycles.toNat made) ∧
    ∀ now, let polled := after.whenRunning (pollStage now)
      let stepped := cpuStage now polled
      polled.isRunning = true → polled.isPaused = false →
      2 ≤ now - console.schedule.cpu.lastFired →
        console.machine.Frozen polled.machine ∧
          polled.machine.Stepped polled.host stepped.state ∧
          (stepped.isRunning = true → ∃ instruction,
            console.machine.current? = some instruction ∧
              polled.machine.Framed instruction stepped.machine) ∧
          after.tickAt now = stepped.whenRunning (timerStage now) := by
  intro after
  refine ⟨held.made, held.schedule_cpu, ?_, ?_⟩
  · rintro past now future rfl
    exact held.made_tick
  · intro now polled stepped running free passed
    have cadence : polled.schedule.cpu = console.schedule.cpu :=
      (after.cpu_whenRunning_pollStage now).trans held.schedule_cpu
    have due : polled.schedule.cpu.isDue now = true := by
      rw [cadence, Cadence.isDue, (Schedule.periods standard).1]
      exact decide_eq_true passed
    have taken : stepped.state = polled.machine.step polled.host := by
      rw [state_cpuStage, free, due]
      rfl
    obtain ⟨made, -, -, idled⟩ := held.made
    have frozen : console.machine.Frozen polled.machine :=
      idled.toFrozen.trans (after.frozen_whenRunning_pollStage now)
    have result : polled.machine.Stepped polled.host stepped.state := by
      rw [taken]
      exact polled.machine.step_stepped polled.host
    refine ⟨frozen, result, fun goesOn => ?_, ?_⟩
    · obtain ⟨instruction, current, framed, -⟩ | ⟨halted, -⟩ := result.framed_or_halted
      · exact ⟨instruction, frozen.current?_eq.symm.trans current, framed⟩
      · exact absurd (halted.symm.trans goesOn) Bool.false_ne_true
    · rw [tickAt, whenRunning_of_running running]

/-- A console in front of an instruction, with a screen to clear and a sound to play, on a host that
holds the processor when it is asked for the first time and releases it when it is asked again. -/
def interrupted : Console (Recorded (Scripted Silent)) where
  machine := { Machine.fresh [0x60, 0x05] {} .zeros with
    status := { running := true, clearDisplay := true }, timers := { delay := 1, sound := 7 } }
  schedule := .initial
  host := ⟨⟨.silent, [{ paused := some true }, { paused := some false }]⟩, #[]⟩

private theorem instructionAt_interrupted {machine : Machine}
    (frozen : interrupted.machine.Frozen machine) :
    machine.instructionAt machine.registers.pc = .ok (.setByte 0 5) := by
  rw [frozen.registers]
  exact Machine.instructionAt_of_holding frozen.memory (by decide) (by decide)

private theorem isRunning_interrupted {polled : Console (Recorded (Scripted Silent))}
    (frozen : interrupted.machine.Frozen polled.machine) (running : polled.isRunning = true)
    (free : polled.isPaused = false) (due : polled.schedule.cpu.isDue 517 = true) :
    (cpuStage 517 polled).isRunning = true := by
  have taken : (cpuStage 517 polled).state = polled.machine.step polled.host := by
    rw [state_cpuStage, free, due]
    rfl
  rw [Machine.step_of_done frozen.mode (instructionAt_interrupted frozen) rfl] at taken
  exact (congrArg (fun state => state.1.isRunning) taken).trans running

/-- The instruction is completed at the tick whose poll releases the processor, and not before. -/
theorem run_of_held_interrupted :
    interrupted.schedule.reset = .initial ∧ interrupted.Held [.tickAt 500, .pause true] ∧
      (interrupted.tickAt 500).host.calls.toList.countP Call.isPoll = 1 ∧
      (interrupted.tickAt 500).host.calls.toList.count (.screen .clearing) = 1 ∧
      (interrupted.tickAt 500).machine.timers.sound.toNat = 6 ∧
      ∃ polled stepped,
        polled = (interrupted.run [.tickAt 500, .pause true]).whenRunning (pollStage 517) ∧
        stepped = cpuStage 517 polled ∧
        interrupted.machine.Frozen polled.machine ∧
        interrupted.machine.current? = some (.setByte 0 5) ∧
        stepped.machine.registers.pc = 0x202 ∧ stepped.machine.cycles = 1 := by
  have standard : interrupted.schedule.reset = .initial := by decide
  have held : interrupted.Held [.tickAt 500, .pause true] :=
    .tick (fun _ => .inl rfl) (.pause (.nil _))
  obtain ⟨-, -, ticks, later⟩ := run_of_held standard held
  obtain ⟨-, made, calls, polls, idled⟩ := ticks [] 500 [.pause true] rfl rfl
  have calls : (interrupted.tickAt 500).host.calls.toList = made := calls
  have current : interrupted.machine.current? = some (.setByte 0 5) :=
    Machine.current?_of_fetched rfl (instructionAt_interrupted (.refl _))
  obtain ⟨frozen, -, about, -⟩ := later 517 rfl rfl (by decide)
  obtain ⟨instruction, found, framed⟩ := about (isRunning_interrupted frozen rfl rfl rfl)
  cases current.symm.trans found
  refine ⟨standard, held, ?_, ?_, idled.sound, _, _, rfl, rfl, frozen, current, ?_, ?_⟩
  · rw [calls]
    exact polls
  · rw [calls]
    exact idled.clears
  · refine framed.counter.trans ?_
    have goesOn := congrArg (·.pc + 2) frozen.registers
    exact goesOn
  · exact framed.cycles.trans (congrArg (· + 1) frozen.cycles)

end Console

end Chip8
