import Chip8.Proofs.Clearing
import Chip8.Proofs.Faults
import Chip8.Proofs.KeyEvents

/-! # Keys held from the start

A terminal can be given keys to hold before a program is loaded. It presses them in their order, one
with each poll, whatever else happens between the polls. `HoldsKeys` says how much of that is done:
the queue and the keypad always add up to the keys that were given. A number that no key has ends
the run at the poll whose turn it is, and what is behind it in the queue is never asked for.
-/

namespace Chip8

universe u

variable {η : Type u}

namespace Terminal

variable {keys rest : List UInt8} {key : UInt8} {count : Nat}

/-- What a terminal still has to press when some of its keys have been taken. -/
def held (keys : List UInt8) (count : Nat) : List KeyEvent :=
  (holding (keys.drop count)).pending

private theorem held_of_drop_nil (none : keys.drop count = []) : held keys count = [] := by
  rw [held, none]
  rfl

private theorem held_of_drop_cons (next : keys.drop count = key :: rest) :
    held keys count = ⟨key, true⟩ :: (holding rest).pending := by
  rw [held, next]
  rfl

/-- Taking the key whose turn it is. -/
theorem take_of_drop_cons (next : keys.drop count = key :: rest) :
    keys.take (count + 1) = keys.take count ++ [key] ∧ keys.drop (count + 1) = rest ∧
      (keys.take count).length = count := by
  have here : keys[count]? = some key := by
    rw [← List.head?_drop, next]
    rfl
  have inside : count < keys.length := (List.getElem?_eq_some_iff.mp here).1
  refine ⟨?_, ?_, ?_⟩
  · rw [List.take_add_one, here]
    rfl
  · rw [← List.tail_drop, next]
    rfl
  · rw [List.length_take]
    omega

private theorem mem_take_succ (next : keys.drop count = key :: rest) {other : UInt8} :
    other ∈ keys.take (count + 1) ↔ other ∈ keys.take count ∨ other = key := by
  rw [(take_of_drop_cons next).1, List.mem_append, List.mem_singleton]

private theorem mem_take_of_cut {good : List UInt8} (cut : keys = good ++ key :: rest)
    (taken : good.length < count) : key ∈ keys.take count := by
  have turn : keys.drop good.length = key :: rest := by rw [cut, List.drop_left]
  exact List.take_subset_take_left keys taken ((mem_take_succ turn).mpr (.inr rfl))

/-- There is one first key that is none. -/
theorem cut_unique {good other others : List UInt8} {bad wrong : UInt8}
    (valid : ∀ key ∈ good, key.toNat < keyCount) (none : keyCount ≤ bad.toNat)
    (valid' : ∀ key ∈ other, key.toNat < keyCount) (none' : keyCount ≤ wrong.toNat)
    (same : good ++ bad :: rest = other ++ wrong :: others) :
    good = other ∧ bad = wrong ∧ rest = others := by
  induction good generalizing other with
  | nil =>
    cases other with
    | nil =>
      cases same
      exact ⟨rfl, rfl, rfl⟩
    | cons first tail =>
      cases same
      exact absurd (valid' bad (List.mem_cons_self ..)) (Nat.not_lt.mpr none)
  | cons key tail ih =>
    cases other with
    | nil =>
      cases same
      exact absurd (valid wrong (List.mem_cons_self ..)) (Nat.not_lt.mpr none')
    | cons first tail' =>
      obtain ⟨rfl, behind⟩ := List.cons.inj same
      obtain ⟨rfl, rfl, rfl⟩ := ih (List.forall_mem_cons.mp valid).2
        (List.forall_mem_cons.mp valid').2 behind
      exact ⟨rfl, rfl, rfl⟩

end Terminal

namespace Machine

variable {machine : Machine} {terminal : Terminal}

/-- What a poll comes to on a terminal that only presses keys. -/
inductive Polled (machine : Machine) (terminal : Terminal) : Machine × Terminal → Prop
  | exhausted (empty : terminal.pending = []) : Polled machine terminal (machine, terminal)
  | pressed {key : UInt8} {rest : List KeyEvent} {keypad : Keypad}
      (next : terminal.pending = ⟨key, true⟩ :: rest) (valid : key.toNat < keyCount)
      (down : ∀ other, keypad.isDown other = true ↔
        other = key ∨ machine.keypad.isDown other = true) :
      Polled machine terminal ({ machine with keypad }, { terminal with pending := rest })
  | strange {key : UInt8} {rest : List KeyEvent}
      (next : terminal.pending = ⟨key, true⟩ :: rest) (none : keyCount ≤ key.toNat) :
      Polled machine terminal
        ({ machine with status.running := false, fault := some (.invalidKey key) },
          { terminal with pending := rest })

/-- An answer that leaves the pause alone and does not ask to stop changes nothing by itself. -/
theorem heed_of_calm {input : Input} (paused : input.paused = machine.isPaused)
    (goes : input.stop = false) : machine.heed input = machine := by
  rw [heed, paused, goes, Bool.not_false, Bool.and_true]
  rfl

private theorem pollInput_polled (presses : ∀ event ∈ terminal.pending, event.pressed = true) :
    machine.Polled terminal (machine.pollInput terminal) := by
  cases queue : terminal.pending with
  | nil =>
    have asked : machine.asks terminal = (.idle machine.isPaused, terminal) := by
      simp only [asks, Host.poll, queue]
    have quiet : (machine.asks terminal).1.key = none := by
      rw [asked]
      rfl
    rw [pollInput_of_noEvent quiet, asked, heed_of_calm rfl rfl]
    exact .exhausted queue
  | cons event rest =>
    obtain ⟨key, down⟩ := event
    have press : down = true := presses ⟨key, down⟩ (by rw [queue]; exact List.mem_cons_self ..)
    subst press
    have asked : machine.asks terminal =
        ({ Input.idle machine.isPaused with key := some ⟨key, true⟩ },
          { terminal with pending := rest }) := by
      simp only [asks, Host.poll, queue]
    have reported : (machine.asks terminal).1.key = some ⟨key, true⟩ := by
      rw [asked]
    rw [pollInput_of_event reported, asked, heed_of_calm rfl rfl]
    by_cases valid : (⟨key, true⟩ : KeyEvent).key.toNat < keyCount
    · obtain ⟨keypad, set, pressed⟩ :=
        press_of_key valid machine { terminal with pending := rest }
      rw [pressed]
      refine .pressed queue valid fun other => ?_
      rw [set]
      by_cases same : other = key
      · simp [same]
      · simp [same]
    · have none := Nat.le_of_not_lt valid
      rw [press_of_noKey none]
      exact .strange queue none

/-- A program has no way to the queue of a terminal. -/
theorem step_pending (machine : Machine) (terminal : Terminal) :
    (machine.step terminal).2.pending = terminal.pending := by
  have stepped := machine.step_stepped terminal
  generalize machine.step terminal = result at stepped ⊢
  cases stepped with
  | waited => rfl
  | resumed => rfl
  | unfetched => rfl
  | refused => rfl
  | completed active fetched done =>
    obtain ⟨frame, frames, drawn, -⟩ := execute_terminal done
    rw [drawn]

/-- No instruction faults for want of a key. -/
theorem fault_of_step [Host η] {host : η} {key : UInt8}
    (told : (machine.step host).1.fault = some (.invalidKey key)) :
    machine.fault = some (.invalidKey key) := by
  have stepped := machine.step_stepped host
  generalize machine.step host = result at stepped told
  cases stepped with
  | waited => exact told
  | resumed => exact told
  | unfetched active missing =>
    cases Option.some.inj told
    rcases instructionAt_eq_error_iff.mp missing with ⟨-, same⟩ | ⟨_, -, -, same⟩ <;> contradiction
  | refused active fetched refuses =>
    cases Option.some.inj told
    cases refuses
  | @completed instruction flow =>
    rw [← (machine.execute_untouched host instruction).fault]
    cases flow <;> exact told

end Machine

namespace Moment

/-- A moment that does not poll takes nothing from the queue of a terminal. -/
theorem pending_after {moment : Moment Terminal} (other : moment.activity ≠ .poll) :
    moment.after.2.pending = moment.host.pending := by
  obtain ⟨activity, machine, terminal⟩ := moment
  cases activity with
  | load program dialect =>
    simp only [after, before, Activity.apply, Machine.load_eq]
    split <;> rfl
  | poll => contradiction
  | step => exact machine.step_pending terminal
  | cycle =>
    obtain ⟨beeps, ticked⟩ := machine.tickTimers_terminal terminal
    simp only [after, before, Activity.apply, ticked]
  | pause paused => rfl
  | stop => rfl

/-- Only a poll faults for want of a key. -/
theorem fault_of_after [Host η] {moment : Moment η} (noLoad : moment.activity.isLoad = false)
    (other : moment.activity ≠ .poll) {key : UInt8}
    (told : moment.after.1.fault = some (.invalidKey key)) :
    moment.machine.fault = some (.invalidKey key) := by
  obtain ⟨activity, machine, host⟩ := moment
  cases activity with
  | load => contradiction
  | poll => contradiction
  | step => exact Machine.fault_of_step told
  | cycle =>
    simp only [after, before, Activity.apply, Machine.tickTimers_machine] at told
    exact told
  | pause paused => exact told
  | stop => exact told

private theorem event?_of_ne_poll [Host η] {moment : Moment η} (other : moment.activity ≠ .poll) :
    moment.event? = none := by
  cases reported : moment.event? with
  | none => rfl
  | some event => exact absurd (activity_of_event? reported) other

end Moment

def pollCount (moments : List (Moment η)) : Nat :=
  moments.countP fun moment => moment.activity == .poll

private theorem pollCount_cons_of_poll {moment : Moment η} (poll : moment.activity = .poll)
    (moments : List (Moment η)) : pollCount (moment :: moments) = pollCount moments + 1 :=
  List.countP_cons_of_pos (beq_iff_eq.mpr poll)

private theorem pollCount_cons_of_ne {moment : Moment η} (other : moment.activity ≠ .poll)
    (moments : List (Moment η)) : pollCount (moment :: moments) = pollCount moments :=
  List.countP_cons_of_neg (by simpa using other)

private theorem pollCount_append (first second : List (Moment η)) :
    pollCount (first ++ second) = pollCount first + pollCount second := List.countP_append

/-- Whether all keys that were taken were ones, or the last of them was none and has halted the
machine. -/
inductive Delivered (keys : List UInt8) (count : Nat) (machine : Machine) : Prop
  | going (valid : ∀ key ∈ keys.take count, key.toNat < keyCount)
      (calm : ∀ key, machine.fault ≠ some (.invalidKey key))
  | ended {good rest : List UInt8} {bad : UInt8} (cut : keys = good ++ bad :: rest)
      (valid : ∀ key ∈ good, key.toNat < keyCount) (none : keyCount ≤ bad.toNat)
      (last : count = good.length + 1) (halted : machine.isRunning = false)
      (told : machine.fault = some (.invalidKey bad))

/-- A machine and a terminal after some polls of the keys that the terminal was given to hold. -/
structure HoldsKeys (keys : List UInt8) (count : Nat) (state : Machine × Terminal) : Prop where
  pending : state.2.pending = Terminal.held keys count
  down : ∀ key, state.1.keypad.isDown key = true ↔
    key ∈ keys.take count ∧ key.toNat < keyCount
  delivered : Delivered keys count state.1

namespace HoldsKeys

variable {keys : List UInt8} {count : Nat} {machine : Machine} {terminal : Terminal}

private theorem polled (holds : HoldsKeys keys count (machine, terminal)) :
    machine.Polled terminal (machine.pollInput terminal) := by
  apply Machine.pollInput_polled
  intro event member
  rw [holds.pending] at member
  obtain ⟨key, -, rfl⟩ := List.mem_map.mp member
  rfl

/-- As long as a machine runs, every key that was taken was one. -/
theorem valid_of_running (holds : HoldsKeys keys count (machine, terminal))
    (running : machine.isRunning = true) :
    (∀ key ∈ keys.take count, key.toNat < keyCount) ∧
      ∀ key, machine.fault ≠ some (.invalidKey key) := by
  cases holds.delivered with
  | going valid calm => exact ⟨valid, calm⟩
  | ended _ _ _ _ halted _ =>
    rw [running] at halted
    contradiction

/-- A queue that begins with an event presses the key whose turn it is. -/
theorem drop_of_pending (holds : HoldsKeys keys count (machine, terminal)) {key : UInt8}
    {rest : List KeyEvent} (next : terminal.pending = ⟨key, true⟩ :: rest) :
    ∃ others, keys.drop count = key :: others ∧ rest = (Terminal.holding others).pending := by
  have pending : terminal.pending = Terminal.held keys count := holds.pending
  rw [next] at pending
  cases turn : keys.drop count with
  | nil =>
    rw [Terminal.held_of_drop_nil turn] at pending
    contradiction
  | cons first others =>
    rw [Terminal.held_of_drop_cons turn] at pending
    cases pending
    exact ⟨others, rfl, rfl⟩

private theorem drop_of_empty (holds : HoldsKeys keys count (machine, terminal))
    (empty : terminal.pending = []) : keys.drop count = [] := by
  have pending : terminal.pending = Terminal.held keys count := holds.pending
  rw [empty] at pending
  cases turn : keys.drop count with
  | nil => rfl
  | cons first others =>
    rw [Terminal.held_of_drop_cons turn] at pending
    contradiction

/-- One poll takes one key, as long as there is one. -/
theorem poll (holds : HoldsKeys keys count (machine, terminal))
    (running : machine.isRunning = true) :
    HoldsKeys keys (count + 1) (machine.pollInput terminal) := by
  obtain ⟨valid, calm⟩ := holds.valid_of_running running
  have answered := holds.polled
  generalize machine.pollInput terminal = result at answered ⊢
  cases answered with
  | exhausted empty =>
    have all := holds.drop_of_empty empty
    have enough : keys.length ≤ count := List.drop_eq_nil_iff.mp all
    have none : keys.drop (count + 1) = [] := List.drop_eq_nil_iff.mpr (by omega)
    have same : keys.take (count + 1) = keys.take count := by
      rw [List.take_of_length_le enough, List.take_of_length_le (by omega)]
    refine ⟨?_, ?_, .going ?_ calm⟩
    · exact empty.trans (Terminal.held_of_drop_nil none).symm
    · rw [same]
      exact holds.down
    · rw [same]
      exact valid
  | @pressed key rest keypad next known down =>
    obtain ⟨others, turn, rfl⟩ := holds.drop_of_pending next
    obtain ⟨-, left, -⟩ := Terminal.take_of_drop_cons turn
    refine ⟨by rw [Terminal.held, left], ?_, .going ?_ calm⟩
    · intro other
      have before : machine.keypad.isDown other = true ↔
          other ∈ keys.take count ∧ other.toNat < keyCount := holds.down other
      rw [down, before, Terminal.mem_take_succ turn]
      constructor
      · rintro (rfl | ⟨earlier, fine⟩)
        · exact ⟨.inr rfl, known⟩
        · exact ⟨.inl earlier, fine⟩
      · rintro ⟨earlier | rfl, fine⟩
        · exact .inr ⟨earlier, fine⟩
        · exact .inl rfl
    · intro other member
      rcases (Terminal.mem_take_succ turn).mp member with earlier | rfl
      · exact valid other earlier
      · exact known
  | @strange key rest next none =>
    obtain ⟨others, turn, rfl⟩ := holds.drop_of_pending next
    obtain ⟨-, left, length⟩ := Terminal.take_of_drop_cons turn
    have cut : keys = keys.take count ++ key :: others := by
      rw [← turn, List.take_append_drop]
    refine ⟨by rw [Terminal.held, left], ?_, .ended cut valid none (by rw [length]) rfl rfl⟩
    intro other
    have before : machine.keypad.isDown other = true ↔
        other ∈ keys.take count ∧ other.toNat < keyCount := holds.down other
    rw [before, Terminal.mem_take_succ turn]
    constructor
    · rintro ⟨earlier, fine⟩
      exact ⟨.inl earlier, fine⟩
    · rintro ⟨earlier | rfl, fine⟩
      · exact ⟨earlier, fine⟩
      · omega

/-- Whatever happens between two polls, the keys stay where they are. -/
theorem other {moment : Moment Terminal} (holds : HoldsKeys keys count moment.before)
    (running : moment.activity.needsProgram = true → moment.machine.isRunning = true)
    (noLoad : moment.activity.isLoad = false) (other : moment.activity ≠ .poll) :
    HoldsKeys keys count moment.after := by
  have keypad := Moment.keypad_of_noEvent noLoad (Moment.event?_of_ne_poll other)
  refine ⟨(Moment.pending_after other).trans holds.pending, ?_, ?_⟩
  · rw [keypad]
    exact holds.down
  · cases holds.delivered with
    | going valid calm =>
      exact .going valid fun key told => calm key (Moment.fault_of_after noLoad other told)
    | ended cut valid none last halted told =>
      obtain ⟨activity, machine, terminal⟩ := moment
      have halted : machine.isRunning = false := halted
      have idle (needs : activity.needsProgram = true) : False := by
        rw [running needs] at halted
        contradiction
      cases activity with
      | load => contradiction
      | poll => contradiction
      | step => exact (idle rfl).elim
      | cycle => exact (idle rfl).elim
      | pause paused => exact .ended cut valid none last halted told
      | stop => exact .ended cut valid none last rfl told

/-- A poll that takes a key, or none, leaves the machine running. -/
theorem running_of_poll (holds : HoldsKeys keys count (machine, terminal))
    (running : machine.isRunning = true)
    (valid : ∀ key ∈ keys.take (count + 1), key.toNat < keyCount) :
    (machine.pollInput terminal).1.isRunning = true := by
  have answered := holds.polled
  generalize machine.pollInput terminal = result at answered ⊢
  cases answered with
  | exhausted => exact running
  | pressed => exact running
  | @strange key rest next none =>
    obtain ⟨others, turn, -⟩ := holds.drop_of_pending next
    exact absurd (valid key ((Terminal.mem_take_succ turn).mpr (.inr rfl))) (Nat.not_lt.mpr none)

/-- While all keys that were taken are ones, none has halted the machine. -/
theorem calm_of_valid {state : Machine × Terminal} (holds : HoldsKeys keys count state)
    (valid : ∀ key ∈ keys.take count, key.toNat < keyCount) (key : UInt8) :
    state.1.fault ≠ some (.invalidKey key) := by
  cases holds.delivered with
  | going _ calm => exact calm key
  | @ended good rest bad cut _ none last =>
    have taken : bad ∈ keys.take count := Terminal.mem_take_of_cut cut (by omega)
    exact absurd (valid bad taken) (Nat.not_lt.mpr none)

/-- The first number that no key has was the last one to be taken. -/
theorem ended_of_lt {state : Machine × Terminal} (holds : HoldsKeys keys count state)
    {good rest : List UInt8} {bad : UInt8} (cut : keys = good ++ bad :: rest)
    (valid : ∀ key ∈ good, key.toNat < keyCount) (none : keyCount ≤ bad.toNat)
    (taken : good.length < count) :
    count = good.length + 1 ∧ state.1.isRunning = false ∧
      state.1.fault = some (.invalidKey bad) := by
  cases holds.delivered with
  | going all calm =>
    exact absurd (all bad (Terminal.mem_take_of_cut cut taken)) (Nat.not_lt.mpr none)
  | @ended good' rest' bad' cut' valid' none' last halted told =>
    obtain ⟨rfl, rfl, rfl⟩ := Terminal.cut_unique valid none valid' none' (cut ▸ cut')
    exact ⟨last, halted, told⟩

/-- Then the keys before it are down, and those behind it are left. -/
theorem left_of_cut {state : Machine × Terminal} {good rest : List UInt8} {bad : UInt8}
    (holds : HoldsKeys keys (good.length + 1) state) (cut : keys = good ++ bad :: rest)
    (valid : ∀ key ∈ good, key.toNat < keyCount) (none : keyCount ≤ bad.toNat) :
    state.2.pending = (Terminal.holding rest).pending ∧
      ∀ key, state.1.keypad.isDown key = true ↔ key ∈ good := by
  have turn : keys.drop good.length = bad :: rest := by rw [cut, List.drop_left]
  refine ⟨?_, fun key => ?_⟩
  · rw [holds.pending, Terminal.held, (Terminal.take_of_drop_cons turn).2.1]
  · rw [holds.down, Terminal.mem_take_succ turn, cut, List.take_left]
    constructor
    · rintro ⟨earlier | rfl, fine⟩
      · exact earlier
      · omega
    · intro earlier
      exact ⟨.inl earlier, valid key earlier⟩

end HoldsKeys

namespace Chain

variable {start final : Machine × Terminal} {moments : List (Moment Terminal)} {keys : List UInt8}

/-- Along a chain without loads every poll takes one key. -/
theorem holdsKeys_behind (chain : Chain start moments final) {count : Nat}
    (noLoad : ∀ moment ∈ moments, moment.activity.isLoad = false)
    (holds : HoldsKeys keys count start) : HoldsKeys keys (count + pollCount moments) final := by
  induction chain generalizing count with
  | nil => exact holds
  | @cons moment rest final running tail ih =>
    obtain ⟨first, others⟩ := List.forall_mem_cons.mp noLoad
    by_cases poll : moment.activity = .poll
    · rw [pollCount_cons_of_poll poll, Nat.add_comm (pollCount rest), ← Nat.add_assoc]
      apply ih others
      obtain ⟨activity, machine, terminal⟩ := moment
      subst poll
      exact holds.poll (running rfl)
    · rw [pollCount_cons_of_ne poll]
      exact ih others (holds.other running first poll)

private theorem holdsKeys (chain : Chain start moments final)
    (noLoad : ∀ moment ∈ moments, moment.activity.isLoad = false)
    (holds : HoldsKeys keys 0 start) : HoldsKeys keys (pollCount moments) final := by
  have held := chain.holdsKeys_behind noLoad holds
  rwa [Nat.zero_add] at held

/-- A poll in a chain finds as many keys taken as there were polls before it. -/
theorem holdsKeys_at {past future : List (Moment Terminal)} {moment : Moment Terminal}
    (chain : Chain start (past ++ moment :: future) final)
    (noLoad : ∀ other ∈ past ++ moment :: future, other.activity.isLoad = false)
    (holds : HoldsKeys keys 0 start) (poll : moment.activity = .poll) :
    moment.after = moment.machine.pollInput moment.host ∧ moment.machine.isRunning = true ∧
      HoldsKeys keys (pollCount past) (moment.machine, moment.host) := by
  obtain ⟨earlier, running, -⟩ := chain.around
  have held := earlier.holdsKeys (fun other member => noLoad other (List.mem_append_left _ member))
    holds
  obtain ⟨activity, machine, terminal⟩ := moment
  subst poll
  exact ⟨rfl, running rfl, held⟩

end Chain

namespace Console

private theorem holdsKeys_load (console : Console Terminal) (keys : List UInt8)
    {program : List UInt8} (fits : program.length ≤ maxProgramSize) (dialect : Dialect) :
    HoldsKeys keys 0
      (({ console with host := .holding keys } : Console Terminal).load program dialect).state := by
  have small : program.length ≤ 3584 := fits
  rw [state_load, Machine.load_eq, if_pos small]
  refine ⟨rfl, fun key => ?_, .going ?_ ?_⟩
  · have up : Keypad.released.isDown key = false := Keypad.isDown_released key
    exact iff_of_false (Bool.eq_false_iff.mp up) (fun down => List.not_mem_nil down.1)
  · intro key member
    exact absurd member List.not_mem_nil
  · intro key told
    simp only [Machine.fresh, small, if_true] at told
    contradiction

/-- From a load that succeeds on, a terminal presses the keys that it was given to hold, one with
each poll. As long as these are keys, no poll stops the machine, those that were taken are down, and
the others wait in the queue. The first number that no key has halts the machine when it is polled.
Then the keys before it are down and those behind it stay in the queue, whatever is asked of the
console except to load another program. -/
theorem held_keys_in_turn (console : Console Terminal) (keys : List UInt8) {program : List UInt8}
    (fits : program.length ≤ maxProgramSize) (dialect : Dialect) {operations : List Operation}
    (noLoad : ∀ operation ∈ operations, operation.isLoad = false) :
    let loaded := ({ console with host := .holding keys } : Console Terminal).load program dialect
    let history := loaded.history operations
    let final := loaded.run operations
    let taken := keys.take (pollCount history)
    ((∀ key ∈ taken, key.toNat < keyCount) →
      (∀ moment ∈ history, moment.activity = .poll → moment.after.1.isRunning = true) ∧
      (∀ key, final.fault? ≠ some (.invalidKey key)) ∧
      final.host.pending = (Terminal.holding (keys.drop (pollCount history))).pending ∧
      ∀ key, final.machine.keypad.isDown key = true ↔ key ∈ taken) ∧
    ∀ good bad rest, keys = good ++ bad :: rest → (∀ key ∈ good, key.toNat < keyCount) →
      keyCount ≤ bad.toNat →
      (∀ past poll future, history = past ++ poll :: future → poll.activity = .poll →
        pollCount past = good.length →
          poll.after.1.isRunning = false ∧ poll.after.1.fault = some (.invalidKey bad)) ∧
      (good.length < pollCount history →
        pollCount history = good.length + 1 ∧ final.isRunning = false ∧
        final.fault? = some (.invalidKey bad) ∧
        final.host.pending = (Terminal.holding rest).pending ∧
        ∀ key, final.machine.keypad.isDown key = true ↔ key ∈ good) := by
  intro loaded history final taken
  have chain : Chain loaded.state history final.state := loaded.chain_history operations
  have quiet : ∀ moment ∈ history, moment.activity.isLoad = false :=
    fun moment => isLoad_of_mem_history noLoad
  have initially : HoldsKeys keys 0 loaded.state := console.holdsKeys_load keys fits dialect
  have ended : HoldsKeys keys (pollCount history) final.state := chain.holdsKeys quiet initially
  refine ⟨fun valid => ⟨?_, ended.calm_of_valid valid, ended.pending, ?_⟩, ?_⟩
  · intro moment member poll
    obtain ⟨past, future, here⟩ := List.append_of_mem member
    have soFar : pollCount past + 1 ≤ pollCount history := by
      rw [here, pollCount_append, pollCount_cons_of_poll poll]
      omega
    rw [here] at chain quiet
    obtain ⟨answered, running, held⟩ := chain.holdsKeys_at quiet initially poll
    rw [answered]
    apply held.running_of_poll running
    intro key taken
    exact valid key (List.take_subset_take_left keys soFar taken)
  · intro key
    have down : final.machine.keypad.isDown key = true ↔
        key ∈ taken ∧ key.toNat < keyCount := ended.down key
    rw [down]
    exact and_iff_left_of_imp (valid key)
  · intro good bad rest cut valid none
    refine ⟨?_, ?_⟩
    · intro past poll future here polls turn
      rw [here] at chain quiet
      obtain ⟨answered, running, held⟩ := chain.holdsKeys_at quiet initially polls
      rw [answered]
      exact ((held.poll running).ended_of_lt cut valid none (by omega)).2
    · intro taken
      obtain ⟨last, halted, told⟩ := ended.ended_of_lt cut valid none taken
      rw [last] at ended
      obtain ⟨pending, down⟩ := ended.left_of_cut cut valid none
      exact ⟨last, halted, told, pending, down⟩

/-- A paused console whose terminal holds two keys and a number between them that no key has halts
with the second poll. -/
theorem held_keys_in_turn_strange :
    let loaded := ({ new ({} : Terminal) .zeros with host := .holding [5, 16, 7] } :
      Console Terminal).load [] {}
    let final := loaded.run [.pause true, .tickAt 500, .tickAt 1000, .tickAt 1500]
    final.fault? = some (.invalidKey 16) ∧ final.host.pending = [⟨7, true⟩] ∧
      ∀ key, final.machine.keypad.isDown key = true ↔ key ∈ [5] := by
  have fits : ([] : List UInt8).length ≤ maxProgramSize := Nat.zero_le _
  have noLoad : ∀ operation ∈ [Operation.pause true, .tickAt 500, .tickAt 1000, .tickAt 1500],
      operation.isLoad = false := by decide
  have valid : ∀ key ∈ [(5 : UInt8)], key.toNat < keyCount :=
    List.forall_mem_singleton.mpr (by decide)
  obtain ⟨-, strange⟩ := held_keys_in_turn (new ({} : Terminal) .zeros) [5, 16, 7] fits {} noLoad
  obtain ⟨-, ended⟩ := strange [5] 16 [7] rfl valid (by decide)
  obtain ⟨-, -, told, pending, down⟩ := ended (by decide +kernel)
  exact ⟨told, pending, down⟩

end Console

end Chip8
