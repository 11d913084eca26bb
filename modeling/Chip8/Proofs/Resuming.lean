import Chip8.Proofs.Calls
import Chip8.Proofs.Dialogue
import Chip8.Proofs.FreeRuns
import Chip8.Proofs.Loading
import Chip8.Proofs.TickOrder
import Mathlib.Algebra.GroupWithZero.Nat

/-! # Free runs that breakpoints cut

Every eighth round of a free run ends in a timer cycle, and each request to continue counts its
rounds from one again. After a stop at a breakpoint the timer cycles therefore fall into other
rounds than they would have without the stop. `continue_resumed` says what that comes to: a run that
is cut goes through the same states as one that is not, exactly if each timer cycle that is moved
finds nothing to do. `breakpoint_moves_timer_cycle` is a program that notices.
-/

namespace Chip8

universe u

variable {η : Type u} [Host η]

private theorem Timers.countDown_eq_self_iff {count : UInt8} :
    countDown count = count ↔ count = 0 := by
  constructor
  · intro same
    have value := congrArg UInt8.toNat same
    rw [toNat_countDown] at value
    exact UInt8.toNat_inj.mp (by rw [UInt8.toNat_zero]; omega)
  · rintro rfl
    rfl

namespace Machine

/-- The timers have run out, the sound is off, and no clear is pending. -/
structure Calm (machine : Machine) : Prop where
  delay : machine.timers.delay = 0
  sound : machine.timers.sound = 0
  silent : machine.status.soundActive = false
  flushed : machine.status.clearDisplay = false

/-- A timer cycle leaves exactly a calm machine as it is. -/
theorem tickTimers_eq_self_iff {machine : Machine} (host : η) :
    machine.tickTimers host = (machine, host) ↔ machine.Calm := by
  constructor
  · intro same
    have after := machine.tickTimers_machine host
    rw [same] at after
    have timers : machine.timers.tick = machine.timers := (congrArg Machine.timers after).symm
    have status := congrArg Machine.status after
    have delay := Timers.countDown_eq_self_iff.mp (congrArg Timers.delay timers)
    have sound := Timers.countDown_eq_self_iff.mp (congrArg Timers.sound timers)
    refine ⟨delay, sound, (congrArg Status.soundActive status).trans ?_,
      congrArg Status.clearDisplay status⟩
    simp only [timers, Timers.isAudible, sound]
    rfl
  · intro calm
    obtain ⟨_, _, ⟨_, _⟩, _, ⟨_, _, _, _, _⟩, _, _, _, _, _⟩ := machine
    obtain ⟨rfl, rfl, rfl, rfl⟩ := calm
    rfl

/-- A processor step that stores no fault leaves the machine running if it was. -/
theorem isRunning_step {machine : Machine} {host : η}
    (sound : (machine.step host).1.fault = none) :
    (machine.step host).1.isRunning = machine.isRunning := by
  have stepped := machine.step_stepped host
  generalize machine.step host = result at stepped sound ⊢
  cases stepped with
  | waited | resumed => rfl
  | unfetched | refused => contradiction
  | completed => exact (follow_execute ..).2

end Machine

namespace Console

variable {console : Console η}

private theorem isRunning_tickTimers : console.tickTimers.isRunning = console.isRunning := by
  have kept := congrArg Machine.isRunning (console.machine.tickTimers_machine console.host)
  exact whenRunning_keeps (·.isRunning) kept

theorem isRunning_step (sound : console.step.fault? = none) :
    console.step.isRunning = console.isRunning := by
  unfold step whenRunning at sound ⊢
  split at sound
  · next running =>
    rw [if_pos running]
    exact Machine.isRunning_step sound
  · next halted => rw [if_neg halted]

private theorem tickTimers_eq_self_iff (running : console.isRunning = true) :
    console.tickTimers = console ↔ console.machine.Calm := by
  rw [← Machine.tickTimers_eq_self_iff console.host, tickTimers, whenRunning_of_running running]
  constructor
  · intro same
    exact congrArg state same
  · intro same
    simp only [act, same]

end Console

namespace Debugger

/-- Whether exactly one of two numbers of a round makes it end in a timer cycle. -/
def Displaced (number other : Nat) : Prop :=
  ¬(number % roundsPerTimerCycle = 0 ↔ other % roundsPerTimerCycle = 0)

/-- A timer cycle at the end of the next round makes no difference. -/
def Indifferent (console : Console Terminal) : Prop :=
  console.step.fault? = none → console.step.machine.Calm

section Rounds

variable {console : Console Terminal}

theorem rounds_range'_succ (number count : Nat) :
    rounds console (List.range' number (count + 1)) =
      round (rounds console (List.range' number count)) (number + count) := by
  rw [List.range'_concat, rounds_append, Nat.one_mul]
  rfl

private theorem rounds_take_succ {numbers : List Nat} {place number : Nat}
    (next : numbers[place]? = some number) :
    rounds console (numbers.take (place + 1)) =
      round (rounds console (numbers.take place)) number := by
  rw [List.take_add_one, rounds_append, next]
  rfl

private theorem round_congr {number other : Nat} (same : ¬Displaced number other) :
    round console number = round console other := by
  have due := not_not.mp same
  simp only [round, due]

/-- A round that stores no fault leaves the machine running if it was. -/
theorem isRunning_round {number : Nat} (sound : (round console number).fault? = none) :
    (round console number).isRunning = console.isRunning := by
  simp only [round] at sound ⊢
  split at sound
  · next faulted => simp [sound] at faulted
  · next silent =>
    have stepped := Console.isRunning_step (Option.not_isSome_iff_eq_none.mp silent)
    rw [if_neg silent]
    split
    · exact Console.isRunning_tickTimers.trans stepped
    · exact stepped

private theorem round_eq_round_iff {number other : Nat} (running : console.isRunning = true)
    (displaced : Displaced number other) :
    round console number = round console other ↔ Indifferent console := by
  cases stepped : console.step.fault? with
  | some fault =>
    have vacuous : Indifferent console := fun sound => by simp [sound] at stepped
    simp only [round, stepped, Option.isSome_some, if_true, vacuous]
  | none =>
    have goesOn : console.step.isRunning = true := (Console.isRunning_step stepped).trans running
    have calm : Indifferent console ↔ console.step.tickTimers = console.step := by
      rw [Console.tickTimers_eq_self_iff goesOn]
      exact ⟨fun calm => calm stepped, fun calm _ => calm⟩
    simp only [round, stepped, Option.isSome_none, Bool.false_eq_true, if_false, calm]
    -- Exactly one of the two takes the timer cycle.
    unfold Displaced at displaced
    split <;> split
    · tauto
    · rfl
    · exact eq_comm
    · tauto

private theorem round_agrees {other : Console Terminal} {number place : Nat}
    (same : console = other) (running : other.isRunning = true)
    (indifferent : Displaced number place → Indifferent other) :
    round console number = round other place := by
  rw [same]
  by_cases displaced : Displaced number place
  · exact (round_eq_round_iff running displaced).mpr (indifferent displaced)
  · exact round_congr displaced

/-- A machine goes on running while nothing stops its run. -/
theorem isRunning_rounds {breakpoints : List Address} {number count : Nat}
    (running : console.isRunning = true)
    (silent : ∀ earlier < count, stopAfter? breakpoints console number earlier = none) :
    (rounds console (List.range' number count)).isRunning = true := by
  induction count with
  | zero => exact running
  | succ count ih =>
    have before := ih fun earlier within => silent earlier (Nat.lt_succ_of_lt within)
    have last := silent count (Nat.lt_succ_self count)
    have sound : (rounds console (List.range' number (count + 1))).fault? = none := by
      simp only [stopAfter?, stop?] at last
      split at last
      · contradiction
      · next sound => exact sound
    rw [rounds_range'_succ] at sound ⊢
    exact (isRunning_round sound).trans before

/-- Rounds with other numbers lead through the same states exactly if each timer cycle that only
one of the two takes makes no difference. -/
theorem rounds_agree_iff (numbers : List Nat)
    (running : ∀ place < numbers.length, (rounds console (List.range' 1 place)).isRunning = true) :
    (∀ place ≤ numbers.length,
        rounds console (numbers.take place) = rounds console (List.range' 1 place)) ↔
      ∀ place number, numbers[place]? = some number → Displaced number (1 + place) →
        Indifferent (rounds console (List.range' 1 place)) := by
  constructor
  · intro agree place number next displaced
    obtain ⟨within, -⟩ := List.getElem?_eq_some_iff.mp next
    have after := agree (place + 1) within
    rw [rounds_take_succ next, rounds_range'_succ, agree place (Nat.le_of_lt within)] at after
    exact (round_eq_round_iff (running place within) displaced).mp after
  · intro indifferent place within
    induction place with
    | zero => rfl
    | succ place ih =>
      have next : numbers[place]? = some numbers[place] := List.getElem?_eq_getElem within
      rw [rounds_take_succ next, rounds_range'_succ]
      exact round_agrees (ih (Nat.le_of_lt within)) (running place within)
        (indifferent place _ next)

end Rounds

/-- The numbers of the rounds in runs of these lengths, one behind the other. -/
def renumbered (counts : List Nat) : List Nat := counts.flatMap (List.range' 1)

private theorem renumbered_cons (count : Nat) (counts : List Nat) :
    renumbered (count :: counts) = List.range' 1 count ++ renumbered counts := List.flatMap_cons

private theorem length_renumbered (counts : List Nat) :
    (renumbered counts).length = counts.sum := by
  simp [renumbered, List.length_flatMap]

/-- A request to continue is answered after `count` rounds, and leaves another session. -/
structure Session.Continues (session : Session) (count : Nat) (after : Session) : Prop where
  running : session.console.isRunning = true
  ends : (session.execute? count .continue).map (·.session) = some after
  least : session.execute? (count - 1) .continue = none

/-- Requests to continue are answered one after the other, each after a number of rounds. -/
inductive Resumed : Session → List Nat → Session → Prop
  | nil (session : Session) : Resumed session [] session
  | cons {session middle final : Session} {count : Nat} {counts : List Nat}
      (first : session.Continues count middle) (rest : Resumed middle counts final) :
      Resumed session (count :: counts) final

section Resuming

variable {session after : Session}

private theorem Session.execute?_continue (running : session.console.isRunning = true)
    (budget : Nat) :
    session.execute? budget .continue =
      (run? session.breakpoints budget session.console).map fun (console, stop) =>
        (Session.advance { session with listFrom := none } console).andSay (·.stopEvents stop) :=
  unlessHalted_of_running running _

private theorem Session.continues_of_run {count : Nat} {final : Console Terminal} {stop : Stop}
    (running : session.console.isRunning = true)
    (ran : run? session.breakpoints (count + 1) session.console = some (final, stop))
    (least : run? session.breakpoints count session.console = none) :
    session.Continues (count + 1) { session with console := final, listFrom := none } where
  running := running
  ends := by
    rw [execute?_continue running, ran]
    rfl
  least := by
    rw [execute?_continue running, Nat.add_sub_cancel, least]
    rfl

/-- A free run stops after the first round that gives a reason to. -/
theorem Session.continues_iff {count : Nat} :
    session.Continues count after ↔
      session.console.isRunning = true ∧ ∃ last, count = last + 1 ∧
        after = { session with
          console := rounds session.console (List.range' 1 count), listFrom := none } ∧
        (stopAfter? session.breakpoints session.console 1 last).isSome = true ∧
        ∀ earlier < last, stopAfter? session.breakpoints session.console 1 earlier = none := by
  constructor
  · rintro ⟨running, ends, least⟩
    rw [execute?_continue running, Option.map_map, Option.map_eq_some_iff] at ends
    rw [execute?_continue running, Option.map_eq_none_iff] at least
    obtain ⟨⟨final, stop⟩, ran, rfl⟩ := ends
    obtain ⟨last, within, rfl, stops, silent⟩ := runFrom?_eq_some_iff.mp ran
    have exact : count = last + 1 := by
      by_contra other
      have early := runFrom?_eq_none_iff.mp least last (by omega)
      cases early.symm.trans stops
    refine ⟨running, last, exact, ?_, Option.isSome_of_eq_some stops, silent⟩
    rw [exact]
    rfl
  · rintro ⟨running, last, rfl, rfl, stops, silent⟩
    obtain ⟨stop, stops⟩ := Option.isSome_iff_exists.mp stops
    exact continues_of_run running
      (runFrom?_eq_some_iff.mpr ⟨last, Nat.lt_succ_self last, rfl, stops, silent⟩)
      (runFrom?_eq_none_iff.mpr silent)

/-- The rounds of requests that are answered one after the other, each counting its own. -/
theorem Resumed.rounds_eq {counts : List Nat} (resumed : Resumed session counts after) :
    after.console = rounds session.console (renumbered counts) ∧
      after.breakpoints = session.breakpoints := by
  induction resumed with
  | nil => exact ⟨rfl, rfl⟩
  | @cons session middle final count counts first rest ih =>
    obtain ⟨-, last, -, left, -⟩ := Session.continues_iff.mp first
    subst left
    refine ⟨ih.1.trans ?_, ih.2⟩
    rw [renumbered_cons, rounds_append]

private theorem Resumed.concat {counts : List Nat} {count : Nat} {final : Session}
    (resumed : Resumed session counts after) (last : after.Continues count final) :
    Resumed session (counts ++ [count]) final := by
  induction resumed with
  | nil => exact .cons last (.nil final)
  | cons first rest ih => exact .cons first (ih last)

/-- What stops a run without breakpoints stops it with them. -/
theorem isSome_stop? {before : Address} {console : Console Terminal} (breakpoints : List Address)
    (stops : (stop? [] before console).isSome = true) :
    (stop? breakpoints before console).isSome = true := by
  unfold stop? at stops ⊢
  split
  · rfl
  · next sound =>
    simp only [sound, List.contains_nil, Bool.false_eq_true, if_false] at stops
    split
    · rfl
    · exact stops

/-- A session that stands in the middle of a run, and for which the timer cycles still ahead that
its own count moves make no difference, goes on to the next of its breakpoints, or to the end. -/
theorem Session.exists_continues {console : Console Terminal} {place last : Nat}
    (within : place ≤ last) (here : session.console = rounds console (List.range' 1 place))
    (running : ∀ place ≤ last, (rounds console (List.range' 1 place)).isRunning = true)
    (stops : (stopAfter? [] console 1 last).isSome = true)
    (indifferent : ∀ offset, place + offset ≤ last →
      Displaced (1 + offset) (1 + (place + offset)) →
      Indifferent (rounds console (List.range' 1 (place + offset)))) :
    ∃ count after, session.Continues count after ∧ 0 < count ∧ place + count ≤ last + 1 ∧
      after.console = rounds console (List.range' 1 (place + count)) := by
  have agree (offset : Nat) (inside : place + offset ≤ last + 1) :
      rounds session.console (List.range' 1 offset) =
        rounds console (List.range' 1 (place + offset)) := by
    induction offset with
    | zero => exact here
    | succ offset ih =>
      rw [← Nat.add_assoc, rounds_range'_succ, rounds_range'_succ]
      exact round_agrees (ih (Nat.le_of_succ_le inside))
        (running _ (Nat.le_of_succ_le_succ inside))
        (indifferent offset (Nat.le_of_succ_le_succ inside))
  -- At the latest, the reason that ends the uncut run ends this one.
  have reason :
      (stopAfter? session.breakpoints session.console 1 (last - place)).isSome = true := by
    have behind : place + (last - place) = last := Nat.add_sub_cancel' within
    rw [stopAfter?, agree _ (by omega), agree _ (by omega), ← Nat.add_assoc, behind]
    exact isSome_stop? session.breakpoints stops
  obtain ⟨stop, reason⟩ := Option.isSome_iff_exists.mp reason
  cases ran : runFrom? session.breakpoints session.console 1 (last - place + 1) with
  | none =>
    have silent := runFrom?_eq_none_iff.mp ran (last - place) (Nat.lt_succ_self _)
    cases silent.symm.trans reason
  | some result =>
    obtain ⟨final, first⟩ := result
    obtain ⟨rest, early, rfl, stopped, silent⟩ := runFrom?_eq_some_iff.mp ran
    have started : session.console.isRunning = true := by
      rw [here]
      exact running place within
    refine ⟨rest + 1, _, Session.continues_iff.mpr ⟨started, rest, rfl, rfl,
      Option.isSome_of_eq_some stopped, silent⟩, Nat.succ_pos rest, by omega, ?_⟩
    exact agree (rest + 1) (by omega)

end Resuming

/-- A program that starts the delay timer, passes the time, and stays where it is. -/
def ageing : List UInt8 :=
  [0x60, 0x05, 0xF0, 0x15, 0x60, 0x05, 0x60, 0x05, 0x60, 0x05, 0x60, 0x05, 0x60, 0x05, 0x60, 0x05,
    0x12, 0x10]

/-- A console in the middle of that program. -/
def midAgeing (pc : Address) (value delay : UInt8) (cycles : Nat) : Console Terminal where
  machine :=
    { Machine.fresh ageing {} .zeros with
      registers := { Registers.initial.setBlock [value] with pc }
      timers := { delay, sound := 0 }
      cycles }
  schedule := .initial
  host := {}

theorem load_ageing : Console.load (.new {} .zeros) ageing {} = midAgeing 0x200 0 0 0 := by
  simp only [Console.load, Console.act, Machine.load_eq]
  rfl

section Ageing

variable {pc after : Address} {value delay : UInt8} {cycles : Nat} {next : Console Terminal}

private theorem step_midAgeing (instruction : Instruction) (flow : Flow)
    (inside : pc.toNat + 1 < memorySize)
    (decoded : Instruction.decode? ((Memory.image ageing pc.toNat).toUInt16 <<< 8 |||
      (Memory.image ageing (pc.toNat + 1)).toUInt16) = some instruction)
    (sound : ((midAgeing pc value delay cycles).machine.execute ({} : Terminal)
      instruction).outcome = .ok flow)
    (left : { midAgeing pc value delay cycles with
      machine := ((midAgeing pc value delay cycles).machine.execute ({} : Terminal)
        instruction).machine.follow pc flow
      host := ((midAgeing pc value delay cycles).machine.execute ({} : Terminal)
        instruction).host } = next) :
    (midAgeing pc value delay cycles).step = next := by
  have memory : (midAgeing pc value delay cycles).machine.memory = .holding ageing :=
    congrArg Memory.holding (if_pos (by decide))
  have fetched : (midAgeing pc value delay cycles).machine.instructionAt pc = .ok instruction :=
    Machine.instructionAt_of_holding memory inside decoded
  have stepped : (midAgeing pc value delay cycles).machine.step ({} : Terminal) = _ :=
    Machine.step_of_done rfl fetched sound
  rw [← left, Console.step, Console.whenRunning_of_running rfl]
  exact congrArg (fun state : Machine × Terminal =>
    { midAgeing pc value delay cycles with machine := state.1, host := state.2 }) stepped

private theorem round_of_step {console : Console Terminal} {number : Nat}
    (stepped : console.step = next) (off : number % roundsPerTimerCycle ≠ 0) :
    round console number = next := by
  simp only [round, stepped, off, if_false, ite_self]

end Ageing

/-- The console while that program passes the time. -/
def idling (place : Nat) : Console Terminal :=
  midAgeing (0x204 + 2 * place).toUInt16 5 5 (2 + place)

private theorem step_idling {place : Nat} (within : place < 6) :
    (idling place).step = idling (place + 1) := by
  obtain rfl | rfl | rfl | rfl | rfl | rfl : place = 0 ∨ place = 1 ∨ place = 2 ∨ place = 3 ∨
      place = 4 ∨ place = 5 := by omega
  all_goals exact step_midAgeing (.setByte 0 5) .next (by decide) (by decide) rfl rfl

private theorem stop?_idling {place : Nat} (within : place < 6) :
    stop? [] (idling place).machine.registers.pc (idling (place + 1)) = none ∧
      stop? [0x204] (idling place).machine.registers.pc (idling (place + 1)) = none := by
  obtain rfl | rfl | rfl | rfl | rfl | rfl : place = 0 ∨ place = 1 ∨ place = 2 ∨ place = 3 ∨
      place = 4 ∨ place = 5 := by omega
  all_goals exact ⟨rfl, rfl⟩

/-- Away from timer cycles and breakpoints, a run goes on while the program passes the time. -/
theorem runFrom?_idling {breakpoints : List Address}
    (goesOn : ∀ place < 6,
      stop? breakpoints (idling place).machine.registers.pc (idling (place + 1)) = none)
    (place number count : Nat) (within : place + count ≤ 6)
    (off : ∀ offset < count, (number + offset) % roundsPerTimerCycle ≠ 0) (budget : Nat) :
    runFrom? breakpoints (idling place) number (budget + count) =
      runFrom? breakpoints (idling (place + count)) (number + count) budget := by
  induction count generalizing place number with
  | zero => rfl
  | succ count ih =>
    have took := round_of_step (step_idling (show place < 6 by omega)) (off 0 (by omega))
    have later : ∀ offset < count, (number + 1 + offset) % roundsPerTimerCycle ≠ 0 := by
      intro offset inside
      rw [Nat.add_assoc, Nat.add_comm 1]
      exact off (offset + 1) (Nat.succ_lt_succ inside)
    have rest := ih (place + 1) (number + 1) (by omega) later
    rw [Nat.add_assoc place, Nat.add_assoc number, Nat.add_comm 1] at rest
    rw [← rest]
    exact runFrom?_of_goesOn took (goesOn place (by omega))

section Courses

variable {breakpoints : List Address}

private theorem round_start : round (midAgeing 0x200 0 0 0) 1 = midAgeing 0x202 5 0 1 :=
  round_of_step (step_midAgeing (.setByte 0 5) .next (by decide) (by decide) rfl rfl) (by decide)

private theorem round_setDelay : round (midAgeing 0x202 5 0 1) 2 = idling 0 :=
  round_of_step (step_midAgeing (.setDelay 0) .next (by decide) (by decide) rfl rfl) (by decide)

private theorem round_stuck {delay : UInt8} {number : Nat}
    (off : number % roundsPerTimerCycle ≠ 0) :
    round (midAgeing 0x210 5 delay 8) number = midAgeing 0x210 5 delay 9 :=
  round_of_step (step_midAgeing (.jump 0x210) (.jump 0x210) (by decide) (by decide) rfl rfl) off

/-- Without breakpoints, the eighth round counts the delay timer down. -/
theorem continues_ageing :
    Session.Continues { console := midAgeing 0x200 0 0 0 } 9
      { console := midAgeing 0x210 5 4 9 } := by
  have eighth : round (idling 5) 8 = midAgeing 0x210 5 4 8 := by
    simp only [round, step_idling (show 5 < 6 by decide)]
    rfl
  have ran (budget : Nat) : run? [] (budget + 8) (midAgeing 0x200 0 0 0) =
      runFrom? [] (midAgeing 0x210 5 4 8) 9 budget := by
    have idle := runFrom?_idling (fun place within => (stop?_idling within).1) 0 3 5 (by decide)
      (by decide) (budget + 1)
    rw [run?, runFrom?_of_goesOn round_start rfl, runFrom?_of_goesOn round_setDelay rfl, idle,
      runFrom?_of_goesOn eighth rfl]
  have stops : runFrom? [] (midAgeing 0x210 5 4 8) 9 1 = some (midAgeing 0x210 5 4 9, .stuck) :=
    runFrom?_of_stops (round_stuck (by decide)) rfl
  exact Session.continues_of_run rfl ((ran 1).trans stops) (ran 0)

/-- With a breakpoint behind the second round, the others count from one again. -/
theorem resumed_ageing :
    Resumed { console := midAgeing 0x200 0 0 0, breakpoints := [0x204] } [2, 7]
      { console := midAgeing 0x210 5 5 9, breakpoints := [0x204] } := by
  have first : Session.Continues
      { console := midAgeing 0x200 0 0 0, breakpoints := [0x204] } 2
      { console := idling 0, breakpoints := [0x204] } := by
    have stopped : run? [0x204] 2 (midAgeing 0x200 0 0 0) = some (idling 0, .breakpoint) :=
      (runFrom?_of_goesOn round_start rfl).trans (runFrom?_of_stops round_setDelay rfl)
    exact Session.continues_of_run rfl stopped (runFrom?_of_goesOn round_start rfl)
  have ran (budget : Nat) : run? [0x204] (budget + 6) (idling 0) =
      runFrom? [0x204] (midAgeing 0x210 5 5 8) 7 budget :=
    runFrom?_idling (fun place within => (stop?_idling within).2) 0 1 6 (by decide) (by decide)
      budget
  have stops : runFrom? [0x204] (midAgeing 0x210 5 5 8) 7 1 =
      some (midAgeing 0x210 5 5 9, .stuck) := runFrom?_of_stops (round_stuck (by decide)) rfl
  have second : Session.Continues
      { console := idling 0, breakpoints := [0x204] } 7
      { console := midAgeing 0x210 5 5 9, breakpoints := [0x204] } :=
    Session.continues_of_run rfl ((ran 1).trans stops) (ran 0)
  exact .cons first (.cons second (.nil _))

end Courses

/-- A free run without breakpoints, against requests to continue with any breakpoints that take no
more rounds together. The latter go through the same states exactly if each timer cycle that only
one of the two takes makes no difference. If that is so of the timer cycles still ahead at each
stop, then requests to continue reach the end of the run. -/
theorem continue_resumed (session : Session) {uncut : Session} {count : Nat}
    (whole : Session.Continues { session with breakpoints := [] } count uncut) :
    let states (place : Nat) := rounds session.console (List.range' 1 place)
    uncut.console = states count ∧
      (∀ counts after, Resumed session counts after → counts.sum ≤ count →
        after.console = rounds session.console (renumbered counts) ∧
          ((∀ place ≤ counts.sum,
              rounds session.console ((renumbered counts).take place) = states place) ↔
            ∀ place number, (renumbered counts)[place]? = some number →
              Displaced number (1 + place) → Indifferent (states place))) ∧
      ((∀ counts after, Resumed session counts after → ∀ offset, counts.sum + offset < count →
          Displaced (1 + offset) (1 + (counts.sum + offset)) →
          Indifferent (states (counts.sum + offset))) →
        ∃ counts after, Resumed session counts after ∧ counts.sum = count ∧
          after.console = uncut.console) := by
  intro states
  obtain ⟨started, last, rfl, rfl, stops, silent⟩ := Session.continues_iff.mp whole
  have running (place : Nat) (within : place ≤ last) : (states place).isRunning = true :=
    isRunning_rounds started fun earlier before => silent earlier (Nat.lt_of_lt_of_le before within)
  refine ⟨rfl, fun counts after resumed within => ⟨resumed.rounds_eq.1, ?_⟩, fun indifferent => ?_⟩
  · rw [← length_renumbered]
    refine rounds_agree_iff (renumbered counts) fun place inside => running place ?_
    rw [length_renumbered] at inside
    omega
  · suffices reaches : ∀ remaining counts after, Resumed session counts after →
        after.console = states counts.sum → counts.sum + remaining = last + 1 →
        ∃ counts after, Resumed session counts after ∧ counts.sum = last + 1 ∧
          after.console = states (last + 1) from
      reaches (last + 1) [] session (.nil session) rfl (Nat.zero_add _)
    -- On the rounds that are left of the uncut run: each request takes some of them.
    intro remaining
    induction remaining using Nat.strongRecOn with
    | ind remaining ih =>
      intro counts after resumed here total
      cases remaining with
      | zero =>
        rw [Nat.add_zero] at total
        exact ⟨counts, after, resumed, total, total ▸ here⟩
      | succ remaining =>
        obtain ⟨more, next, continues, positive, inside, left⟩ :=
          Session.exists_continues (by omega) here running stops fun offset inside displaced =>
            indifferent counts after resumed offset (Nat.lt_succ_of_le inside) displaced
        have sum : (counts ++ [more]).sum = counts.sum + more := by simp
        exact ih (remaining + 1 - more) (by omega) (counts ++ [more]) next
          (resumed.concat continues) (by rw [sum]; exact left) (by omega)

/-- What the theorem says of that program, stopped once. -/
theorem continue_resumed_ageing :
    let session : Session := { console := midAgeing 0x200 0 0 0, breakpoints := [0x204] }
    let states (place : Nat) := rounds session.console (List.range' 1 place)
    Session.Continues { session with breakpoints := [] } 9 { console := midAgeing 0x210 5 4 9 } ∧
      ((∀ place ≤ 9,
          rounds session.console ((renumbered [2, 7]).take place) = states place) ↔
        ∀ place number, (renumbered [2, 7])[place]? = some number →
          Displaced number (1 + place) → Indifferent (states place)) := by
  intro session states
  obtain ⟨-, agrees, -⟩ := continue_resumed session continues_ageing
  exact ⟨continues_ageing, (agrees [2, 7] _ resumed_ageing (Nat.le_refl 9)).2⟩

/-- Stopped once at a breakpoint, the program takes as many rounds to its end as without the stop,
and its delay timer is never counted down on the way. -/
theorem breakpoint_moves_timer_cycle :
    let session : Session :=
      { console := .load (.new {} .zeros) ageing {}, breakpoints := [0x204] }
    ∃ uncut cut, Session.Continues { session with breakpoints := [] } 9 uncut ∧
      Resumed session [2, 7] cut ∧ [2, 7].sum = 9 ∧
      uncut.machine.timers.delay = 4 ∧ cut.machine.timers.delay = 5 := by
  rw [load_ageing]
  exact ⟨_, _, continues_ageing, resumed_ageing, rfl, rfl, rfl⟩

end Debugger

end Chip8
