import Chip8.Proofs.Loading
import Chip8.Proofs.TickOrder

/-! # Which keys are down

A poll reports at most one key event, and nothing else tells the machine of keys: only a load lets
go of all of them. So a key is down if the last report of it since the load was a press, and
`keypad_eq_reports` says so of every run. An event for no key reports nothing. The keypad stays as
it is, and the machine halts behind what the same answer said about a pause.
-/

namespace Chip8

universe u

variable {η : Type u}

/-- Whether a key goes down or up with an event, if there is an event and it is about that key. -/
def KeyEvent.about? (key : UInt8) (event? : Option KeyEvent) : Option Bool :=
  (event?.filter (·.key == key)).map KeyEvent.pressed

private theorem KeyEvent.about?_some (key : UInt8) (event : KeyEvent) :
    about? key (some event) = if event.key = key then some event.pressed else none := by
  unfold about?
  by_cases same : event.key = key <;> simp [Option.filter, same]

private theorem KeyEvent.about?_eq_some_iff {key : UInt8} {event? : Option KeyEvent}
    {pressed : Bool} : about? key event? = some pressed ↔ event? = some ⟨key, pressed⟩ := by
  cases event? with
  | none => exact iff_of_false nofun nofun
  | some event =>
    obtain ⟨other, down⟩ := event
    simp [about?_some]

namespace Machine

variable [Host η]

/-- A processor step reads the keypad, at most. -/
theorem step_keypad (machine : Machine) (host : η) :
    (machine.step host).1.keypad = machine.keypad := by
  have stepped := machine.step_stepped host
  generalize machine.step host = result at stepped ⊢
  cases stepped with
  | waited => rfl
  | resumed => rfl
  | unfetched => rfl
  | @refused instruction => cases instruction <;> rfl
  | @completed instruction flow =>
    have kept := (machine.execute_untouched host instruction).keypad
    cases flow <;> exact kept

end Machine

namespace Moment

variable [Host η]

/-- The key event in the answer of the host, if a moment polls it and gets one. -/
def event? (moment : Moment η) : Option KeyEvent :=
  match moment.activity with
  | .poll => (moment.machine.asks moment.host).1.key
  | _ => none

/-- Whether a key is down by what happens to it at a moment, if anything does. -/
def report? (key : UInt8) (moment : Moment η) : Option Bool :=
  if moment.activity.isLoad then some false else KeyEvent.about? key moment.event?

theorem activity_of_event? {moment : Moment η} {event : KeyEvent}
    (reported : moment.event? = some event) : moment.activity = .poll := by
  obtain ⟨activity, machine, host⟩ := moment
  cases activity with
  | poll => rfl
  | _ => contradiction

private theorem report?_eq_some_true_iff {key : UInt8} {moment : Moment η} :
    moment.report? key = some true ↔ moment.event? = some ⟨key, true⟩ := by
  cases load : moment.activity.isLoad with
  | true =>
    refine iff_of_false (by simp [report?, load]) fun reported => ?_
    rw [activity_of_event? reported] at load
    contradiction
  | false => simp [report?, load, KeyEvent.about?_eq_some_iff]

private theorem report?_eq_none_iff {key : UInt8} {moment : Moment η} :
    moment.report? key = none ↔ moment.activity.isLoad = false ∧
      ∀ pressed, moment.event? ≠ some ⟨key, pressed⟩ := by
  cases load : moment.activity.isLoad with
  | true => simp [report?, load]
  | false =>
    simp [report?, load, Option.eq_none_iff_forall_ne_some, KeyEvent.about?_eq_some_iff]

/-- A moment without a key event leaves the keypad as it is, if it loads no program. -/
theorem keypad_of_noEvent {moment : Moment η} (noLoad : moment.activity.isLoad = false)
    (quiet : moment.event? = none) : moment.after.1.keypad = moment.machine.keypad := by
  obtain ⟨activity, machine, host⟩ := moment
  cases activity with
  | load => contradiction
  | poll =>
    have heeded : machine.pollInput host = _ := Machine.pollInput_of_noEvent quiet
    simp only [after, before, Activity.apply, heeded]
    rfl
  | step => exact machine.step_keypad host
  | cycle => simp only [after, before, Activity.apply, Machine.tickTimers_machine]
  | pause paused => rfl
  | stop => rfl

private theorem keypad_of_event {moment : Moment η} {event : KeyEvent}
    (reported : moment.event? = some event) (valid : event.key.toNat < keyCount) (key : UInt8) :
    moment.after.1.keypad.isDown key =
      if key = event.key then event.pressed else moment.machine.keypad.isDown key := by
  have poll := activity_of_event? reported
  obtain ⟨activity, machine, host⟩ := moment
  subst poll
  have answered : machine.pollInput host = _ := Machine.pollInput_of_event reported
  obtain ⟨keypad, down, pressed⟩ :=
    Machine.press_of_key valid (machine.heed (machine.asks host).1) (machine.asks host).2
  simp only [after, before, Activity.apply, answered, pressed]
  exact down key

/-- An event for no key halts a machine that has heeded the rest of the answer. -/
theorem after_of_noKey {moment : Moment η} {event : KeyEvent}
    (reported : moment.event? = some event) (none : keyCount ≤ event.key.toNat) :
    moment.after =
      ({ moment.machine with
          status := { moment.machine.status with
            running := false
            paused := (moment.machine.asks moment.host).1.paused }
          fault := some (.invalidKey event.key) },
        Host.reportFault (moment.machine.asks moment.host).2 (.invalidKey event.key)) := by
  have poll := activity_of_event? reported
  obtain ⟨activity, machine, host⟩ := moment
  subst poll
  have answered : machine.pollInput host = _ := Machine.pollInput_of_event reported
  rw [Machine.press_of_noKey none] at answered
  exact answered

private theorem isDown_after (moment : Moment η) {key : UInt8} (valid : key.toNat < keyCount) :
    moment.after.1.keypad.isDown key =
      (moment.report? key).getD (moment.machine.keypad.isDown key) := by
  cases load : moment.activity.isLoad with
  | true =>
    obtain ⟨activity, machine, host⟩ := moment
    cases activity with
    | load program dialect =>
      simp only [after, before, Activity.apply, Machine.load_eq]
      exact Keypad.isDown_released key
    | _ => contradiction
  | false =>
    have report : moment.report? key = KeyEvent.about? key moment.event? := by
      simp [report?, load]
    cases reported : moment.event? with
    | none =>
      rw [report, reported, keypad_of_noEvent load reported]
      rfl
    | some event =>
      rw [report, reported, KeyEvent.about?_some]
      by_cases known : event.key.toNat < keyCount
      · rw [keypad_of_event reported known]
        by_cases same : event.key = key
        · rw [if_pos same, if_pos same.symm, Option.getD_some]
        · rw [if_neg same, if_neg (Ne.symm same), Option.getD_none]
      · have other : event.key ≠ key := fun same => known (same ▸ valid)
        rw [after_of_noKey reported (Nat.le_of_not_lt known), if_neg other, Option.getD_none]

end Moment

namespace Chain

/-- From a keypad with all keys up on, a key is as it was last reported. -/
theorem isDown [Host η] {start final : Machine × η} {moments : List (Moment η)}
    (chain : Chain start moments final) {key : UInt8} (valid : key.toNat < keyCount)
    (up : start.1.keypad.isDown key = false) :
    final.1.keypad.isDown key = (latest? (Moment.report? key) moments).getD false := by
  refine chain.tracks (fun past state => state.1.keypad.isDown key =
    (latest? (Moment.report? key) past).getD false) ?_ up
  intro past moment _ before
  have before : moment.machine.keypad.isDown key =
    (latest? (Moment.report? key) past).getD false := before
  rw [moment.isDown_after valid, latest?_concat, before]
  cases moment.report? key <;> rfl

end Chain

namespace Console

/-- A key is down just if a poll since the load has reported a press of it, and none has reported it
since. Of the keys that are down, the lowest is found first. Moments without an event leave the
keypad as it is, and so does an event for no key, which halts the machine behind the pause that the
same answer asks for. -/
theorem keypad_eq_reports [Host η] (console : Console η) (program : List UInt8)
    (dialect : Dialect) (operations : List Operation) :
    let loaded := console.load program dialect
    let history := loaded.history operations
    let keypad := (loaded.run operations).machine.keypad
    (∀ key : UInt8, key.toNat < keyCount →
      (keypad.isDown key = true ↔ ∃ past poll future,
        history = past ++ poll :: future ∧ poll.event? = some ⟨key, true⟩ ∧
          ∀ later ∈ future, later.activity.isLoad = false ∧
            ∀ pressed, later.event? ≠ some ⟨key, pressed⟩)) ∧
    (∀ key : UInt8, keyCount ≤ key.toNat → keypad.isDown key = false) ∧
    (∀ key, keypad.first? = some key ↔
      keypad.isDown key = true ∧ ∀ other < key, keypad.isDown other = false) ∧
    (keypad.first? = none ↔ ∀ key, keypad.isDown key = false) ∧
    ∀ moment : Moment η, moment.activity.isLoad = false →
      (moment.event? = none → moment.after.1.keypad = moment.machine.keypad) ∧
      ∀ event, moment.event? = some event → keyCount ≤ event.key.toNat →
        moment.after =
          ({ moment.machine with
              status := { moment.machine.status with
                running := false
                paused := (moment.machine.asks moment.host).1.paused }
              fault := some (.invalidKey event.key) },
            Host.reportFault (moment.machine.asks moment.host).2 (.invalidKey event.key)) := by
  intro loaded history keypad
  have chain : Chain loaded.state history (loaded.run operations).state :=
    loaded.chain_history operations
  refine ⟨?_, fun key none => Keypad.isDown_of_le none, fun key => Keypad.first?_eq_some_iff,
    Keypad.first?_eq_none_iff, ?_⟩
  · intro key valid
    have up : loaded.machine.keypad.isDown key = false := by
      rw [machine_load]
      exact Keypad.isDown_released key
    have down : keypad.isDown key = (latest? (Moment.report? key) history).getD false :=
      chain.isDown valid up
    have last : (latest? (Moment.report? key) history).getD false = true ↔
        latest? (Moment.report? key) history = some true := by
      cases latest? (Moment.report? key) history <;> simp
    rw [down, last, latest?_eq_some_iff]
    simp only [Moment.report?_eq_some_true_iff, Moment.report?_eq_none_iff]
  · intro moment noLoad
    exact ⟨Moment.keypad_of_noEvent noLoad, fun event => Moment.after_of_noKey⟩

end Console

end Chip8
