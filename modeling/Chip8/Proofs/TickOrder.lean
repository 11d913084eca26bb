import Chip8.Proofs.Halting
import Chip8.Proofs.History
import Chip8.Screen.Terminal

/-! # The order of calls in a tick

A tick polls the host, takes a processor step and runs a timer cycle, as far as they are due. The
host may stop or pause the machine when it is polled, and two of the stages may fault. `TickOrder`
is the form that the calls of a tick have in every case; `tickAt_order` says so, and says what the
later stages see of a poll: nothing happens after one that stops the machine, and otherwise the
processor finds the key and the pause that were just reported.
-/

namespace Chip8

universe u

variable {η : Type u}

/-- At most one call, which asks for input. -/
def Polls (calls : List Call) : Prop := calls = [] ∨ ∃ paused, calls = [.poll paused]

/-- Whether an answer to a poll stops the machine, as a request or by naming no key. -/
def Input.stops (input : Input) : Bool :=
  input.stop || input.key.any fun event => decide (keyCount ≤ event.key.toNat)

/-- Whether a key is down after an answer to a poll. -/
def Input.holds (input : Input) (keypad : Keypad) (key : UInt8) : Bool :=
  match input.key with
  | some event => if key = event.key then event.pressed else keypad.isDown key
  | none => keypad.isDown key

namespace Machine

/-- The answer of the host to a poll, and the host after it. -/
def asks [Host η] (machine : Machine) (host : η) : Input × η :=
  Host.poll host (.idle machine.isPaused)

/-- What a stage that stops a machine leaves to the timers. -/
structure Stopped (before after : Machine) : Prop where
  stopped : after.isRunning = false
  timers : after.timers = before.timers

section Stages

variable [Host η] {machine : Machine} {host : η}

theorem press_of_key {event : KeyEvent} (valid : event.key.toNat < keyCount) (machine : Machine)
    (host : η) :
    ∃ keypad, (∀ key, keypad.isDown key =
        if key = event.key then event.pressed else machine.keypad.isDown key) ∧
      machine.press host event = ({ machine with keypad }, host) := by
  cases done : machine.keypad.set event.key event.pressed with
  | error problem =>
    have none := (Keypad.set_eq_error_iff.mp done).1
    exact absurd valid (Nat.not_lt.mpr none)
  | ok keypad =>
    refine ⟨keypad, Keypad.isDown_of_set done, ?_⟩
    simp only [press, done]

theorem press_of_noKey {event : KeyEvent} (none : keyCount ≤ event.key.toNat) (machine : Machine)
    (host : η) : machine.press host event = machine.halt host (.invalidKey event.key) := by
  have refused : machine.keypad.set event.key event.pressed = .error ⟨event.key⟩ :=
    Keypad.set_eq_error_iff.mpr ⟨none, rfl⟩
  simp only [press, refused, Fault.ofInvalidKey]

theorem pollInput_of_noEvent (quiet : (machine.asks host).1.key = none) :
    machine.pollInput host = (machine.heed (machine.asks host).1, (machine.asks host).2) := by
  rw [asks] at quiet ⊢
  simp only [pollInput, quiet]

theorem pollInput_of_event {event : KeyEvent} (key : (machine.asks host).1.key = some event) :
    machine.pollInput host =
      (machine.heed (machine.asks host).1).press (machine.asks host).2 event := by
  rw [asks] at key ⊢
  simp only [pollInput, key]

private theorem pollInput_timers (machine : Machine) (host : η) :
    (machine.pollInput host).1.timers = machine.timers := by
  obtain ⟨keypad, running, paused, fault, polled⟩ := machine.exists_pollInput host
  rw [polled]

/-- A poll that does not stop the machine decides which keys are down and whether it is paused. -/
theorem pollInput_of_goes (goes : (machine.asks host).1.stops = false) :
    ∃ keypad, (∀ key, keypad.isDown key = (machine.asks host).1.holds machine.keypad key) ∧
      machine.pollInput host =
        ({ machine with keypad, status.paused := (machine.asks host).1.paused },
          (machine.asks host).2) := by
  simp only [Input.stops, Bool.or_eq_false_iff] at goes
  obtain ⟨noStop, valid⟩ := goes
  have heeded : machine.heed (machine.asks host).1 =
      { machine with status.paused := (machine.asks host).1.paused } := by
    simp only [heed, noStop, Bool.not_false, Bool.and_true]
  cases key : (machine.asks host).1.key with
  | none =>
    refine ⟨machine.keypad, fun _ => by simp only [Input.holds, key], ?_⟩
    rw [pollInput_of_noEvent key, heeded]
  | some event =>
    rw [key, Option.any_some, decide_eq_false_iff_not, Nat.not_le] at valid
    obtain ⟨keypad, down, pressed⟩ := press_of_key valid
      { machine with status.paused := (machine.asks host).1.paused } (machine.asks host).2
    refine ⟨keypad, fun _ => by simp only [Input.holds, key, down], ?_⟩
    rw [pollInput_of_event key, heeded, pressed]

/-- A poll stops the machine by its request, or by a fault for want of a key. -/
theorem pollInput_of_stops (stops : (machine.asks host).1.stops = true) :
    (machine.pollInput host).1.isRunning = false := by
  simp only [Input.stops, Bool.or_eq_true] at stops
  cases key : (machine.asks host).1.key with
  | none =>
    have stop : (machine.asks host).1.stop = true := by simpa [key] using stops
    rw [pollInput_of_noEvent key]
    simp only [isRunning, heed, stop, Bool.not_true, Bool.and_false]
  | some event =>
    by_cases valid : event.key.toNat < keyCount
    · have stop : (machine.asks host).1.stop = true := by
        simpa [key, Nat.not_le.mpr valid] using stops
      obtain ⟨keypad, -, pressed⟩ :=
        press_of_key valid (machine.heed (machine.asks host).1) (machine.asks host).2
      rw [pollInput_of_event key, pressed]
      simp only [isRunning, heed, stop, Bool.not_true, Bool.and_false]
    · rw [pollInput_of_event key, press_of_noKey (Nat.le_of_not_lt valid)]
      rfl

/-- A step that faults tells of its fault and of nothing else. -/
theorem step_of_attempt {fault : Fault} (failed : (machine.attempt host).2.2 = some fault) :
    (machine.step host).2 = Host.reportFault host fault ∧
      machine.Stopped (machine.step host).1 := by
  have stepped := machine.step_stepped host
  generalize machine.step host = result at stepped ⊢
  cases stepped with
  | waited waiting up =>
    simp only [attempt, waiting, up] at failed
    contradiction
  | resumed waiting down =>
    simp only [attempt, waiting, down] at failed
    contradiction
  | unfetched active missing =>
    simp only [attempt, active, missing, Option.some.injEq] at failed
    subst failed
    exact ⟨rfl, rfl, rfl⟩
  | @refused instruction fault active fetched refuses =>
    simp only [attempt, active, fetched, execute_of_refuses refuses, Option.some.injEq] at failed
    subst failed
    have timers : (machine.refused instruction).timers = machine.timers := by
      cases instruction <;> rfl
    exact ⟨rfl, rfl, timers⟩
  | completed active fetched done =>
    simp only [attempt, active, fetched, done] at failed
    contradiction

end Stages

section Order

variable [Host η] (machine : Machine) (host : Recorded η)

/-- A poll asks once, and then may tell of a key that is none. -/
theorem pollInput_order :
    ∃ made, (machine.pollInput host).2.calls.toList = host.calls.toList ++ made ∧
      (made = [.poll machine.isPaused] ∨
        ∃ fault, made = [.poll machine.isPaused, .fault fault] ∧
          machine.Stopped (machine.pollInput host).1) := by
  obtain ⟨made, calls, ⟨asked, -⟩ | ⟨fault, told, -, stopped⟩⟩ := machine.pollInput_calls host
  · exact ⟨made, calls, .inl asked⟩
  · exact ⟨made, calls, .inr ⟨fault, told, stopped, machine.pollInput_timers host⟩⟩

/-- A processor step draws a sprite, or tells of a fault, or makes no call. -/
theorem step_order :
    ∃ made, (machine.step host).2.calls.toList = host.calls.toList ++ made ∧
      (Draws made ∨ ∃ fault, made = [.fault fault] ∧
        machine.Stopped (machine.step host).1) := by
  cases attempted : (machine.attempt host).2.2 with
  | some fault =>
    obtain ⟨told, stopped⟩ := step_of_attempt attempted
    rw [told]
    exact ⟨_, Recorded.toList_calls_note .., .inr ⟨fault, rfl, stopped⟩⟩
  | none =>
    have stepped := machine.step_stepped host
    generalize machine.step host = result at stepped ⊢
    cases stepped with
    | waited => exact ⟨[], (List.append_nil _).symm, .inl (.inl rfl)⟩
    | resumed => exact ⟨[], (List.append_nil _).symm, .inl (.inl rfl)⟩
    | unfetched active missing =>
      simp only [attempt, active, missing] at attempted
      contradiction
    | refused active fetched refuses =>
      simp only [attempt, active, fetched, execute_of_refuses refuses] at attempted
      contradiction
    | completed active fetched done =>
      obtain ⟨made, calls, drawn⟩ := execute_draws done
      exact ⟨made, calls, .inl drawn⟩

end Order

end Machine

namespace Console

/-- The calls that a tick makes on its way from one console to another. A fault is told last, and
neither the timers nor their cadence have moved then. -/
inductive TickOrder (before after : Console η) : List Call → Prop
  | halted {polls : List Call} (polled : Polls polls) (fault : Fault)
      (stopped : before.machine.Stopped after.machine)
      (idle : after.schedule.timers = before.schedule.timers) :
      TickOrder before after (polls ++ [.fault fault])
  | completed {polls draws flushes : List Call} (polled : Polls polls) (drawn : Draws draws)
      (flushed : Flushes flushes) : TickOrder before after (polls ++ (draws ++ flushes))

/-- What the later stages of a tick find after a poll that did not stop the machine, when `keypad`
is what the answer made of the keys. -/
def heard [Host η] (console : Console η) (now : UInt32) (keypad : Keypad) : Console η where
  machine := { console.machine with
    keypad, status.paused := (console.machine.asks console.host).1.paused }
  schedule := { console.schedule with input := (console.schedule.input.fire now).2 }
  host := (console.machine.asks console.host).2

theorem whenRunning_of_running {console : Console η} (running : console.isRunning = true)
    (action : Console η → Console η) : console.whenRunning action = action console := by
  rw [whenRunning, running]
  rfl

section Stages

variable [Host η]

private theorem pollStage_of_due {console : Console η} {now : UInt32}
    (due : console.schedule.input.isDue now = true) :
    pollStage now console =
      ⟨(console.machine.pollInput console.host).1,
        { console.schedule with input := (console.schedule.input.fire now).2 },
        (console.machine.pollInput console.host).2⟩ := by
  simp only [pollStage, Cadence.fire_fst, due, if_true, act]

private theorem pollStage_timers (console : Console η) (now : UInt32) :
    (pollStage now console).machine.timers = console.machine.timers ∧
      (pollStage now console).schedule.timers = console.schedule.timers := by
  refine ⟨?_, by rw [schedule_pollStage]⟩
  simp only [pollStage, act]
  split
  · exact console.machine.pollInput_timers console.host
  · rfl

private theorem cpuStage_schedule_timers (console : Console η) (now : UInt32) :
    (cpuStage now console).schedule.timers = console.schedule.timers := by
  rw [schedule_cpuStage]

private theorem rests_timerStage (console : Console η) (now : UInt32) :
    console.machine.Rests (timerStage now console).machine := by
  simp only [timerStage, act]
  split
  · exact console.machine.rests_tickTimers console.host
  · exact .refl console.machine

/-- After a poll that stops the machine the tick is over. -/
theorem tickAt_of_stops {console : Console η} (running : console.isRunning = true) {now : UInt32}
    (due : console.schedule.input.isDue now = true)
    (stops : (console.machine.asks console.host).1.stops = true) :
    console.tickAt now = pollStage now console := by
  have halted : (pollStage now console).isRunning = false := by
    rw [pollStage_of_due due]
    exact Machine.pollInput_of_stops stops
  rw [tickAt, whenRunning_of_running running, whenRunning_of_halted halted,
    whenRunning_of_halted halted]

/-- After any other poll the processor finds the keys and the pause that were answered. -/
theorem tickAt_of_goes {console : Console η} (running : console.isRunning = true) {now : UInt32}
    (due : console.schedule.input.isDue now = true)
    (goes : (console.machine.asks console.host).1.stops = false) :
    ∃ keypad, (∀ key, keypad.isDown key =
        (console.machine.asks console.host).1.holds console.machine.keypad key) ∧
      console.tickAt now =
        (cpuStage now (console.heard now keypad)).whenRunning (timerStage now) := by
  obtain ⟨keypad, down, polled⟩ := Machine.pollInput_of_goes goes
  have staged : pollStage now console = console.heard now keypad := by
    rw [pollStage_of_due due, polled, heard]
  refine ⟨keypad, down, ?_⟩
  have goesOn : (console.heard now keypad).isRunning = true := running
  rw [tickAt, whenRunning_of_running running, staged, whenRunning_of_running goesOn]

end Stages

section Order

variable [Host η] (console : Console (Recorded η)) (now : UInt32)

private theorem pollStage_order :
    ∃ made, (pollStage now console).host.calls.toList = console.host.calls.toList ++ made ∧
      (Polls made ∨ ∃ polls fault, Polls polls ∧ made = polls ++ [.fault fault] ∧
        console.machine.Stopped (pollStage now console).machine) := by
  cases due : console.schedule.input.isDue now with
  | false =>
    refine ⟨[], ?_, .inl (.inl rfl)⟩
    simp only [pollStage, Cadence.fire_fst, due, Bool.false_eq_true, if_false, List.append_nil]
  | true =>
    obtain ⟨made, calls, asked | ⟨fault, told, stopped⟩⟩ :=
      console.machine.pollInput_order console.host
    · rw [pollStage_of_due due]
      exact ⟨made, calls, .inl (.inr ⟨_, asked⟩)⟩
    · rw [pollStage_of_due due]
      exact ⟨made, calls, .inr ⟨_, fault, .inr ⟨_, rfl⟩, told, stopped⟩⟩

private theorem cpuStage_order :
    ∃ made, (cpuStage now console).host.calls.toList = console.host.calls.toList ++ made ∧
      (Draws made ∨ ∃ fault, made = [.fault fault] ∧
        console.machine.Stopped (cpuStage now console).machine) := by
  have staged := console.state_cpuStage now
  cases due : !console.isPaused && console.schedule.cpu.isDue now with
  | false =>
    rw [due] at staged
    have still : (cpuStage now console).host = console.host := congrArg Prod.snd staged
    exact ⟨[], by rw [still, List.append_nil], .inl (.inl rfl)⟩
  | true =>
    rw [due] at staged
    have machine : (cpuStage now console).machine = (console.machine.step console.host).1 :=
      congrArg Prod.fst staged
    have host : (cpuStage now console).host = (console.machine.step console.host).2 :=
      congrArg Prod.snd staged
    rw [machine, host]
    exact console.machine.step_order console.host

private theorem timerStage_order :
    ∃ made, (timerStage now console).host.calls.toList = console.host.calls.toList ++ made ∧
      Flushes made := by
  have staged := console.state_timerStage now
  cases due : console.schedule.timers.isDue now with
  | false =>
    rw [due] at staged
    have still : (timerStage now console).host = console.host := congrArg Prod.snd staged
    exact ⟨[], by rw [still, List.append_nil], [], [], rfl, .inl rfl, .inl rfl⟩
  | true =>
    rw [due] at staged
    have host : (timerStage now console).host = (console.machine.tickTimers console.host).2 :=
      congrArg Prod.snd staged
    rw [host]
    exact console.machine.tickTimers_flushes console.host

/-- The processor and the timers make their calls in this order, unless the processor faults. -/
theorem laterStages_order :
    ∃ made, ((cpuStage now console).whenRunning (timerStage now)).host.calls.toList =
        console.host.calls.toList ++ made ∧
      ((∃ draws flushes, Draws draws ∧ Flushes flushes ∧ made = draws ++ flushes) ∨
        ∃ fault, made = [.fault fault] ∧
          (cpuStage now console).whenRunning (timerStage now) = cpuStage now console ∧
          console.machine.Stopped (cpuStage now console).machine) := by
  obtain ⟨made, calls, drawn | ⟨fault, told, stopped⟩⟩ := console.cpuStage_order now
  · cases goesOn : (cpuStage now console).isRunning with
    | false =>
      rw [whenRunning_of_halted goesOn]
      refine ⟨made, calls, .inl ⟨made, [], drawn, ?_, (List.append_nil _).symm⟩⟩
      exact ⟨[], [], rfl, .inl rfl, .inl rfl⟩
    | true =>
      obtain ⟨flushes, flushed, order⟩ := (cpuStage now console).timerStage_order now
      rw [whenRunning_of_running goesOn]
      refine ⟨made ++ flushes, ?_, .inl ⟨made, flushes, drawn, order, rfl⟩⟩
      rw [flushed, calls, List.append_assoc]
  · rw [whenRunning_of_halted stopped.stopped]
    exact ⟨made, calls, .inr ⟨fault, told, rfl, stopped⟩⟩

/-- The calls of a tick are in order, whatever is due and whatever the host answers. -/
theorem tickAt_tickOrder {console : Console (Recorded η)} (running : console.isRunning = true)
    (now : UInt32) :
    ∃ made, (console.tickAt now).host.calls.toList = console.host.calls.toList ++ made ∧
      console.TickOrder (console.tickAt now) made := by
  obtain ⟨timers, cadence⟩ := console.pollStage_timers now
  obtain ⟨asked, polled, polls | ⟨polls, fault, question, told, stopped⟩⟩ :=
    console.pollStage_order now
  · cases goesOn : (pollStage now console).isRunning with
    | false =>
      have ended : console.tickAt now = pollStage now console := by
        rw [tickAt, whenRunning_of_running running, whenRunning_of_halted goesOn,
          whenRunning_of_halted goesOn]
      rw [ended]
      refine ⟨asked ++ ([] ++ []), ?_, .completed polls (.inl rfl) ?_⟩
      · rw [polled, List.append_nil, List.append_nil]
      · exact ⟨[], [], rfl, .inl rfl, .inl rfl⟩
    | true =>
      have ticked : console.tickAt now =
          (cpuStage now (pollStage now console)).whenRunning (timerStage now) := by
        rw [tickAt, whenRunning_of_running running, whenRunning_of_running goesOn]
      obtain ⟨later, calls, ⟨draws, flushes, drawn, flushed, rfl⟩ |
        ⟨fault, rfl, ended, stopped⟩⟩ := (pollStage now console).laterStages_order now
      · refine ⟨asked ++ (draws ++ flushes), ?_, .completed polls drawn flushed⟩
        rw [ticked, calls, polled, List.append_assoc]
      · refine ⟨asked ++ [.fault fault], ?_, .halted polls fault ?_ ?_⟩
        · rw [ticked, calls, polled, List.append_assoc]
        · rw [ticked, ended]
          exact ⟨stopped.stopped, stopped.timers.trans timers⟩
        · rw [ticked, ended, cpuStage_schedule_timers, cadence]
  · subst told
    have ended : console.tickAt now = pollStage now console := by
      rw [tickAt, whenRunning_of_running running, whenRunning_of_halted stopped.stopped,
        whenRunning_of_halted stopped.stopped]
    rw [ended]
    exact ⟨_, polled, .halted question fault stopped cadence⟩

end Order

/-- The calls of a tick are in order. A poll that stops the machine ends the tick; after any other
the processor of the same tick finds the keys and the pause that were answered. And an instruction
that faults tells of its fault and of nothing else. -/
theorem tickAt_order [Host η] {console : Console (Recorded η)} (running : console.isRunning = true)
    (now : UInt32) :
    (∃ made, (console.tickAt now).host.calls.toList = console.host.calls.toList ++ made ∧
      console.TickOrder (console.tickAt now) made) ∧
    (console.schedule.input.isDue now = true →
      ((console.machine.asks console.host).1.stops = true →
        console.tickAt now = pollStage now console) ∧
      ((console.machine.asks console.host).1.stops = false →
        ∃ keypad, (∀ key, keypad.isDown key =
            (console.machine.asks console.host).1.holds console.machine.keypad key) ∧
          console.tickAt now =
            (cpuStage now (console.heard now keypad)).whenRunning (timerStage now) ∧
          (cpuStage now (console.heard now keypad)).state =
            if !(console.machine.asks console.host).1.paused && console.schedule.cpu.isDue now then
              (console.heard now keypad).machine.step (console.heard now keypad).host
            else (console.heard now keypad).state)) ∧
    ∀ (machine : Machine) (host : Recorded η) (fault : Fault),
      (machine.attempt host).2.2 = some fault →
        (machine.step host).2.calls.toList = host.calls.toList ++ [.fault fault] := by
  refine ⟨tickAt_tickOrder running now, fun due => ⟨tickAt_of_stops running due, ?_⟩, ?_⟩
  · intro goes
    obtain ⟨keypad, down, ticked⟩ := tickAt_of_goes running due goes
    exact ⟨keypad, down, ticked, (console.heard now keypad).state_cpuStage now⟩
  · intro machine host fault attempted
    rw [(Machine.step_of_attempt attempted).1]
    exact Recorded.toList_calls_note ..

/-- A console whose program waits for a key, on a terminal that is about to press one. -/
def expecting : Console (Recorded Terminal) where
  machine := { Machine.initial .zeros with
    status.running := true, mode := .waitingForKey Registers.offsetIndex }
  schedule := .initial
  host := ⟨.holding [5], #[]⟩

/-- The key of a poll ends a wait in the same tick. -/
theorem tickAt_order_expecting :
    expecting.isRunning = true ∧
      expecting.TickOrder (expecting.tickAt 500) (expecting.tickAt 500).host.calls.toList ∧
      (expecting.tickAt 500).machine.registers.get Registers.offsetIndex = 5 := by
  have running : expecting.isRunning = true := rfl
  obtain ⟨⟨made, calls, order⟩, polled, -⟩ := tickAt_order running 500
  have due : expecting.schedule.input.isDue 500 = true := by decide
  have goes : (expecting.machine.asks expecting.host).1.stops = false := by decide
  obtain ⟨keypad, down, ticked, stepped⟩ := (polled due).2 goes
  have first : keypad.first? = some 5 := by
    refine Keypad.first?_eq_some_iff.mpr ⟨down 5, fun other below => ?_⟩
    have apart : other ≠ 5 := UInt8.ne_of_lt below
    rw [down]
    exact (if_neg apart).trans (Keypad.isDown_released other)
  have resumed : (cpuStage 500 (expecting.heard 500 keypad)).state =
      ((expecting.heard 500 keypad).machine.resume Registers.offsetIndex 5,
        (expecting.heard 500 keypad).host) := by
    rw [stepped]
    have held : (expecting.heard 500 keypad).machine.keypad.first? = some 5 := first
    have waiting : (expecting.heard 500 keypad).machine.mode =
        .waitingForKey Registers.offsetIndex := rfl
    simp only [Machine.step, Machine.attempt, waiting, held]
    rfl
  obtain ⟨machine, -⟩ := Prod.mk.inj resumed
  have goesOn : (cpuStage 500 (expecting.heard 500 keypad)).isRunning = true := by
    rw [isRunning, machine]
    rfl
  have told : (expecting.tickAt 500).host.calls.toList = made := by
    rw [calls]
    rfl
  refine ⟨running, told ▸ order, ?_⟩
  rw [ticked, whenRunning_of_running goesOn, (rests_timerStage _ _).registers, machine]
  rfl

end Console

end Chip8
