import Chip8.Proofs.Cycles
import Chip8.Proofs.Loading
import Mathlib.Data.List.Chain

/-! # What the host hears of the sound

A timer cycle tells the host when it turns the sound on or off. A load turns the sound off as well,
and tells nobody, so the host may go on to believe in a sound that is over. `Tuned` says that this
is all that can part the two: the host believes in a sound if there is one, or if there was a load
that found the sound on and no sound since. Every moment keeps it, so `heard_eq_soundActive_iff` can
say of every run when the two agree, and when the host hears of starts and stops by turns.
`heard_reloaded` is a run in which they part.
-/

namespace Chip8

universe u

variable {η : Type u}

/-- What a call says of the sound, if it says anything. -/
def Call.sound? : Call → Option Bool
  | .sound active => some active
  | _ => none

/-- What some calls said of the sound, one after the other. -/
def soundsTold (calls : List Call) : List Bool := calls.filterMap Call.sound?

/-- Whether the sound is on by what was said last. It is off if nothing was said. -/
def heard (told : List Bool) : Bool := told.getLast?.getD false

/-- Starts and stops by turns, with a start first. -/
def Alternates (told : List Bool) : Prop := (false :: told).IsChain (· ≠ ·)

private theorem heard_concat (told : List Bool) (active : Bool) :
    heard (told ++ [active]) = active := by
  rw [heard, List.getLast?_concat, Option.getD_some]

private theorem alternates_concat {told : List Bool} {active : Bool} :
    Alternates (told ++ [active]) ↔ Alternates told ∧ heard told ≠ active := by
  have last : (false :: told).getLast? = some (heard told) := List.getLast?_cons
  rw [Alternates, ← List.cons_append, List.isChain_append, last]
  simp [Alternates]

private theorem soundsTold_append (first second : List Call) :
    soundsTold (first ++ second) = soundsTold first ++ soundsTold second :=
  List.filterMap_append

private theorem soundsTold_filter_isCyclic (calls : List Call) :
    soundsTold (calls.filter Call.isCyclic) = soundsTold calls := by
  rw [soundsTold, List.filterMap_filter]
  refine List.filterMap_congr fun call _ => ?_
  cases call with
  | screen signal => exact ite_self none
  | _ => rfl

private theorem Machine.soundsTold_cycle (machine : Machine) :
    soundsTold (machine.soundCalls ++ machine.clearCalls) =
      if machine.timers.tick.isAudible = machine.status.soundActive then []
      else [machine.timers.tick.isAudible] := by
  have clears : soundsTold machine.clearCalls = [] := by
    unfold clearCalls
    split <;> rfl
  rw [soundsTold_append, clears, List.append_nil, soundCalls]
  simp only [bne_iff_ne, ne_eq, ite_not]
  split <;> rfl

namespace Moment

variable [Host η]

/-- Whether a moment leaves the sound on. -/
def sounds (moment : Moment η) : Bool := moment.after.1.status.soundActive

/-- Whether a moment is a load that finds the sound on. -/
def silences (moment : Moment η) : Bool :=
  moment.activity.isLoad && moment.machine.status.soundActive

private theorem sounds_of_isLoad {moment : Moment η} (load : moment.activity.isLoad = true) :
    moment.sounds = false := by
  obtain ⟨activity, machine, host⟩ := moment
  rw [sounds, soundActive_after]
  cases activity with
  | load => rfl
  | _ => contradiction

/-- The host hears when the sound starts or stops, unless a load stops it. -/
theorem exists_told (moment : Moment (Recorded η)) :
    ∃ made, moment.after.2.calls.toList = moment.host.calls.toList ++ made ∧
      soundsTold made =
        if moment.activity.isLoad = true ∨ moment.sounds = moment.machine.status.soundActive
        then [] else [moment.sounds] := by
  obtain ⟨made, calls, cyclic⟩ := moment.exists_made
  refine ⟨made, calls, ?_⟩
  rw [← soundsTold_filter_isCyclic, cyclic, sounds, soundActive_after]
  obtain ⟨activity, machine, host⟩ := moment
  cases activity with
  | cycle => simp [Activity.isLoad, Machine.soundsTold_cycle]
  | load => simp [Activity.isLoad, soundsTold]
  | _ => simp [soundsTold]

end Moment

section Histories

variable [Host η]

/-- Whether a load has found the sound on, and no moment has left it on since. -/
def muted (moments : List (Moment η)) : Bool :=
  (since Moment.sounds moments).any Moment.silences

/-- Behind a load that found the sound on, no moment leaves it on. -/
def StaysMuted (moments : List (Moment η)) : Prop :=
  moments.Pairwise fun earlier later => earlier.silences = true → later.sounds = false

private theorem StaysMuted.muted_eq {moments : List (Moment η)} (stays : StaysMuted moments) :
    muted moments = moments.any Moment.silences := by
  induction moments using List.reverseRecOn with
  | nil => rfl
  | append_singleton past moment ih =>
    obtain ⟨before, -, between⟩ := List.pairwise_append.mp stays
    rw [muted, any_since_concat, ← muted, ih before, List.any_append, List.any_cons, List.any_nil,
      Bool.or_false]
    cases sounds : moment.sounds with
    | false => rfl
    | true =>
      have loud : moment.silences = false := by
        refine Bool.eq_false_iff.mpr fun silences => ?_
        have load := (Bool.and_eq_true_iff.mp silences).1
        rw [moment.sounds_of_isLoad load] at sounds
        contradiction
      have none : past.any Moment.silences = false := by
        refine List.any_eq_false.mpr fun earlier member silences => ?_
        rw [between earlier member moment (List.mem_singleton_self _) silences] at sounds
        contradiction
      rw [none, loud]
      rfl

private theorem staysMuted_concat {moments : List (Moment η)} {moment : Moment η} :
    StaysMuted (moments ++ [moment]) ↔
      StaysMuted moments ∧ (moment.sounds = true → muted moments = false) := by
  rw [StaysMuted, List.pairwise_append, ← StaysMuted]
  refine and_congr_right fun stays => ?_
  rw [stays.muted_eq, List.any_eq_false]
  simp only [List.pairwise_singleton, true_and, List.mem_singleton, forall_eq]
  constructor
  · intro between sounds earlier member silences
    rw [between earlier member silences] at sounds
    contradiction
  · intro quiet earlier member silences
    exact Bool.eq_false_iff.mpr fun sounds => quiet sounds earlier member silences

end Histories

/-- What the host has heard of the sound, by the moments so far. -/
structure Tuned [Host η] (past : List (Moment (Recorded η))) (state : Machine × Recorded η) :
    Prop where
  hears : heard (soundsTold state.2.calls.toList) = (state.1.status.soundActive || muted past)
  apart : state.1.status.soundActive = true → muted past = false
  alternates : Alternates (soundsTold state.2.calls.toList) ↔ StaysMuted past

/-- A moment that tells of a change makes up for a load that did not. What it tells was told before
if there was such a load. -/
theorem Tuned.onward [Host η] {past : List (Moment (Recorded η))} {moment : Moment (Recorded η)}
    (tuned : Tuned past moment.before) : Tuned (past ++ [moment]) moment.after := by
  obtain ⟨hears, apart, alternates⟩ := tuned
  obtain ⟨made, calls, told⟩ := moment.exists_told
  have hears : heard (soundsTold moment.host.calls.toList) =
    (moment.machine.status.soundActive || muted past) := hears
  have apart : moment.machine.status.soundActive = true → muted past = false := apart
  have alternates : Alternates (soundsTold moment.host.calls.toList) ↔ StaysMuted past :=
    alternates
  have sounded : moment.after.1.status.soundActive = moment.sounds := rfl
  have muting : muted (past ++ [moment]) =
      (!moment.sounds && (muted past || moment.silences)) := any_since_concat ..
  have telling : soundsTold moment.after.2.calls.toList =
      soundsTold moment.host.calls.toList ++ soundsTold made := by
    rw [calls, soundsTold_append]
  cases load : moment.activity.isLoad with
  | true =>
    have quiet : moment.sounds = false := moment.sounds_of_isLoad load
    have silences : moment.silences = moment.machine.status.soundActive := by
      rw [Moment.silences, load, Bool.true_and]
    rw [told, if_pos (.inl load), List.append_nil] at telling
    refine ⟨?_, ?_, ?_⟩
    · rw [telling, hears, sounded, muting, quiet, silences]
      exact Bool.or_comm ..
    · rw [sounded, quiet]
      nofun
    · rw [telling, alternates, staysMuted_concat, quiet]
      exact (and_iff_left nofun).symm
  | false =>
    have loud : moment.silences = false := by
      rw [Moment.silences, load, Bool.false_and]
    rw [loud, Bool.or_false] at muting
    by_cases same : moment.sounds = moment.machine.status.soundActive
    · rw [told, if_pos (.inr same), List.append_nil] at telling
      rw [← same] at hears apart
      refine ⟨?_, ?_, ?_⟩
      · rw [telling, hears, sounded, muting]
        cases moment.sounds <;> rfl
      · intro sounds
        rw [muting, ← sounded, sounds]
        rfl
      · rw [telling, alternates, staysMuted_concat]
        exact (and_iff_left apart).symm
    · have changed : moment.machine.status.soundActive = !moment.sounds :=
        Bool.eq_not_of_ne (Ne.symm same)
      have tells : ¬(moment.activity.isLoad = true ∨
          moment.sounds = moment.machine.status.soundActive) := by
        rw [load]
        exact not_or.mpr ⟨nofun, same⟩
      rw [told, if_neg tells] at telling
      rw [changed] at hears apart
      refine ⟨?_, ?_, ?_⟩
      · rw [telling, heard_concat, sounded, muting]
        cases sounds : moment.sounds with
        | true => rfl
        | false =>
          rw [sounds] at apart
          rw [apart rfl]
          rfl
      · intro sounds
        rw [muting, ← sounded, sounds]
        rfl
      · rw [telling, alternates_concat, alternates, staysMuted_concat, hears]
        cases sounds : moment.sounds with
        | true => simp
        | false => simp

namespace Console

/-- What the host has heard of the sound is what the machine plays, unless a load has found the
sound on and there was none since. The starts and stops that it hears alternate unless there was one
after such a load. -/
theorem heard_eq_soundActive_iff [Host η] (host : η) (random : RandomSource)
    (operations : List Operation) :
    let opened := Console.new (⟨host, #[]⟩ : Recorded η) random
    let history := opened.history operations
    let final := opened.run operations
    let told := soundsTold final.host.calls.toList
    (heard told = final.machine.status.soundActive ↔ muted history = false) ∧
      (Alternates told ↔ StaysMuted history) := by
  intro opened history final told
  have chain : Chain opened.state history final.state := opened.chain_history operations
  have tuned : Tuned history final.state := by
    refine chain.tracks Tuned (fun _ _ _ before => before.onward) ?_
    exact ⟨rfl, nofun, iff_of_true (List.isChain_singleton _) List.Pairwise.nil⟩
  have hears : heard told = (final.machine.status.soundActive || muted history) := tuned.hears
  have apart : final.machine.status.soundActive = true → muted history = false := tuned.apart
  refine ⟨?_, tuned.alternates⟩
  rw [hears]
  cases sounding : final.machine.status.soundActive with
  | true => simp [apart sounding]
  | false => simp

end Console

/-- A program that sets the sound timer. -/
def beep : List UInt8 := [0x60, 0x05, 0xF0, 0x18]

namespace Machine

/-- A machine between the two instructions of that program, the count of which is in a register. -/
def midBeep (x : VIndex) (random : RandomSource) : Machine :=
  let fresh := Machine.fresh beep {} random
  { fresh with registers := { fresh.registers.set x 5 with pc := 0x202 }, cycles := 1 }

/-- A machine behind that program, in front of the next timer cycle. -/
def pastBeep (x : VIndex) (random : RandomSource) : Machine :=
  { midBeep x random with
    registers.pc := 0x204, timers := { delay := 0, sound := 5 }, cycles := 2 }

private theorem step_beep [Host η] (random : RandomSource) (host : η) :
    (Machine.fresh beep {} random).step host = (midBeep 0 random, host) := by
  have fetched : (Machine.fresh beep {} random).instructionAt 0x200 = .ok (.setByte 0 5) :=
    instructionAt_of_holding rfl (by decide) (by decide)
  exact step_of_done rfl fetched rfl

private theorem step_midBeep [Host η] (random : RandomSource) (host : η) :
    (midBeep 0 random).step host = (pastBeep 0 random, host) := by
  have fetched : (midBeep 0 random).instructionAt 0x202 = .ok (.setSound 0) :=
    instructionAt_of_holding rfl (by decide) (by decide)
  exact step_of_done rfl fetched rfl

private theorem isAudible_pastBeep (x : VIndex) (random : RandomSource) :
    (pastBeep x random).timers.tick.isAudible = true := by
  have audible : ({ delay := 0, sound := 5 } : Timers).tick.isAudible = true := by decide
  exact audible

end Machine

namespace Console

private theorem state_load_beep [Host η] (console : Console η) :
    (console.load beep {}).state = (.fresh beep {} console.machine.random, console.host) := by
  have short : beep.length ≤ 3584 := by decide
  rw [state_load, Machine.load_eq, if_pos short]

private theorem state_run_beep [Host η] (console : Console η) :
    (console.run [.load beep {}, .step, .step, .tickTimers]).state =
      (Machine.pastBeep 0 console.machine.random).tickTimers console.host := by
  have between : (console.load beep {}).step.state =
      (.midBeep 0 console.machine.random, console.host) := by
    rw [state_step (state_load_beep console) rfl, Machine.step_beep]
  have past : (console.load beep {}).step.step.state =
      (.pastBeep 0 console.machine.random, console.host) := by
    rw [state_step between rfl, Machine.step_midBeep]
  rw [run_cons, run_cons, run_cons, run_cons, run_nil]
  exact state_tickTimers past rfl

/-- The timer cycle behind that program tells the host that the sound starts. -/
theorem calls_run_beep [Host η] (console : Console (Recorded η)) :
    (console.run [.load beep {}, .step, .step, .tickTimers]).host.calls.toList =
      console.host.calls.toList ++ [.sound true] := by
  rw [host_of_state (state_run_beep console), Machine.tickTimers_calls, Machine.soundCalls,
    Machine.isAudible_pastBeep]
  rfl

/-- Loading it again takes the sound away, and the host has not heard of it. When the program plays
for the second time, the host hears of a start without a stop before it. -/
theorem heard_reloaded :
    let opened := Console.new (⟨.silent, #[]⟩ : Recorded Silent) .zeros
    let beeping := opened.run [.load beep {}, .step, .step, .tickTimers]
    let reloaded := beeping.load beep {}
    let again := beeping.run [.load beep {}, .step, .step, .tickTimers]
    heard (soundsTold reloaded.host.calls.toList) = true ∧
      reloaded.machine.status.soundActive = false ∧
      soundsTold again.host.calls.toList = [true, true] := by
  dsimp only
  have first (opened : Console (Recorded Silent)) (unheard : opened.host.calls.toList = []) :
      (opened.run [.load beep {}, .step, .step, .tickTimers]).host.calls.toList =
        [.sound true] := by
    rw [calls_run_beep, unheard, List.nil_append]
  have kept (console : Console (Recorded Silent)) :
      (console.load beep {}).host = console.host := host_of_state (state_load_beep console)
  refine ⟨?_, ?_, ?_⟩
  · rw [kept, first _ rfl]
    rfl
  · rw [machine_load]
    rfl
  · rw [calls_run_beep, first _ rfl]
    rfl

end Console

end Chip8
