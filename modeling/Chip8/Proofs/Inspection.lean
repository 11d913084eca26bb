import Chip8.Proofs.Dialogue

/-! # Looking at a session disturbs nothing

A line that is not understood, and a command that only shows something or manages breakpoints,
leaves the machine, its schedule and the host as they are. So does a value that does not fit its
register, and one that fits changes that register alone, as a key event changes one key. Once the
machine has halted, no line changes anything but the place of the next listing and the command that
an empty line repeats.
-/

namespace Chip8

def RegisterName.limit : RegisterName → Nat
  | .v _ => 255
  | .i | .pc => 65535
  | .sp => stackDepth

namespace Registers

private theorem toUInt16_toUInt8 {value : Word} (fits : value.toNat < 256) :
    value.toUInt8.toUInt16 = value := by
  apply UInt16.toNat_inj.mp
  rw [UInt8.toNat_toUInt16, UInt16.toNat_toUInt8]
  omega

private theorem setNamed_of_beyond {name : RegisterName} {value : Word} (registers : Registers)
    (beyond : name.limit < value.toNat) : registers.setNamed name value = .error ⟨name, value⟩ := by
  have bound := value.toNat_lt
  cases name with
  | v x => exact if_neg (Nat.not_lt.mpr beyond)
  | sp => exact if_neg (Nat.not_le.mpr beyond)
  | i | pc =>
    simp only [RegisterName.limit] at beyond
    omega

/-- A value that fits is what the register then holds, and nothing else changes. -/
theorem exists_setNamed {name : RegisterName} {value : Word} (registers : Registers)
    (fits : value.toNat ≤ name.limit) :
    ∃ changed, registers.setNamed name value = .ok changed ∧ changed.stack = registers.stack ∧
      ∀ other, changed.getNamed other =
        if other = name then value else registers.getNamed other := by
  cases name with
  | v x =>
    have small : value.toNat < 256 := Nat.lt_succ_of_le fits
    refine ⟨_, if_pos small, rfl, fun other => ?_⟩
    cases other with
    | v y =>
      simp only [getNamed, get_set, RegisterName.v.injEq, eq_comm (a := y)]
      split
      · exact toUInt16_toUInt8 small
      · rfl
    | i | pc | sp => rfl
  | i | pc =>
    refine ⟨_, rfl, rfl, fun other => ?_⟩
    cases other <;> rfl
  | sp =>
    simp only [RegisterName.limit, stackDepth] at fits
    refine ⟨_, if_pos fits, rfl, fun other => ?_⟩
    cases other with
    | sp => exact toUInt16_toUInt8 (by omega)
    | v | i | pc => rfl

end Registers

namespace Console

universe u

variable {η : Type u}

private theorem withRegister_of_beyond {name : RegisterName} {value : Word} (console : Console η)
    (beyond : name.limit < value.toNat) : console.withRegister name value = console := by
  rw [withRegister, Registers.setNamed_of_beyond _ beyond]

private theorem withRegister_of_fits {name : RegisterName} {value : Word} (console : Console η)
    (fits : value.toNat ≤ name.limit) :
    ∃ registers, console.withRegister name value =
        { console with machine.registers := registers } ∧
      registers.stack = console.machine.registers.stack ∧
      ∀ other, registers.getNamed other =
        if other = name then value else console.machine.registers.getNamed other := by
  obtain ⟨registers, done, frame⟩ := console.machine.registers.exists_setNamed fits
  refine ⟨registers, ?_, frame⟩
  rw [withRegister, done]

/-- The console behind a request to set a register, which only a running machine heeds. -/
theorem whenRunning_withRegister (console : Console η) (name : RegisterName) (value : Word) :
    if value.toNat ≤ name.limit ∧ console.isRunning = true then
      ∃ registers, console.whenRunning (·.withRegister name value) =
          { console with machine.registers := registers } ∧
        registers.stack = console.machine.registers.stack ∧
        ∀ other, registers.getNamed other =
          if other = name then value else console.machine.registers.getNamed other
    else console.whenRunning (·.withRegister name value) = console := by
  unfold whenRunning
  split
  · next both =>
    rw [if_pos both.2]
    exact console.withRegister_of_fits both.1
  · next notBoth =>
    split
    · next running =>
      exact console.withRegister_of_beyond (Nat.lt_of_not_le fun fits => notBoth ⟨fits, running⟩)
    · rfl

private theorem withKey_of_noKey {key : UInt8} (console : Console η) (pressed : Bool)
    (none : keyCount ≤ key.toNat) : console.withKey key pressed = console := by
  have refused : console.machine.keypad.set key pressed = .error ⟨key⟩ :=
    Keypad.set_eq_error_iff.mpr ⟨none, rfl⟩
  rw [withKey, refused]

private theorem withKey_of_key {key : UInt8} (console : Console η) (pressed : Bool)
    (valid : key.toNat < keyCount) :
    ∃ keypad, console.withKey key pressed = { console with machine.keypad := keypad } ∧
      ∀ other, keypad.isDown other =
        if other = key then pressed else console.machine.keypad.isDown other := by
  cases done : console.machine.keypad.set key pressed with
  | ok keypad =>
    refine ⟨keypad, ?_, Keypad.isDown_of_set done⟩
    rw [withKey, done]
  | error problem =>
    obtain ⟨none, -⟩ := Keypad.set_eq_error_iff.mp done
    exact absurd valid (Nat.not_lt.mpr none)

/-- The console behind a request to press or release a key, which only a running machine heeds. -/
theorem whenRunning_withKey (console : Console η) (key : UInt8) (pressed : Bool) :
    if key.toNat < keyCount ∧ console.isRunning = true then
      ∃ keypad, console.whenRunning (·.withKey key pressed) =
          { console with machine.keypad := keypad } ∧
        ∀ other, keypad.isDown other =
          if other = key then pressed else console.machine.keypad.isDown other
    else console.whenRunning (·.withKey key pressed) = console := by
  unfold whenRunning
  split
  · next both =>
    rw [if_pos both.2]
    exact console.withKey_of_key pressed both.1
  · next notBoth =>
    split
    · next running =>
      exact console.withKey_of_noKey pressed
        (Nat.le_of_not_lt fun valid => notBoth ⟨valid, running⟩)
    · rfl

end Console

namespace Debugger

namespace Session

variable {session : Session}

private theorem consoleAfter?_of_inspects {command : Command} (inspects : command.inspects = true)
    (budget : Nat) : session.consoleAfter? budget command = some session.console := by
  cases command <;> first | rfl | contradiction

/-- A halted machine leaves a line with an answer and the session nearly as it is. -/
theorem answer_of_halted (halted : session.console.isRunning = false) (budget : Nat)
    (line : String) :
    session.answer budget line = .exit ∨ ∃ reply listFrom last,
      session.answer budget line = .reply reply ∧
        reply.session = { session with listFrom, last } := by
  cases asked : session.commandOf line with
  | error event => exact .inr ⟨_, session.listFrom, session.last, answer_of_unread asked, rfl⟩
  | ok command =>
    by_cases exits : command = .exit
    · exact .inl (answer_of_exit (exits ▸ asked))
    · have still : ({ session with last := some command } : Session).console.isRunning = false :=
        halted
      obtain ⟨reply, listFrom, executed, left⟩ := execute?_of_halted still budget command
      refine .inr ⟨reply, listFrom, some command, ?_, left⟩
      rw [answer_of_asked asked exits, executed]

end Session

/-- Lines to a halted session move the place of the next listing, at most. -/
theorem Transcript.session_of_halted {session : Session}
    (halted : session.console.isRunning = false) (budget : Nat) (lines : List String) :
    ∃ listFrom last, (ofLines budget session lines).session = { session with listFrom, last } := by
  induction lines generalizing session with
  | nil => exact ⟨session.listFrom, session.last, rfl⟩
  | cons line rest ih =>
    obtain exits | ⟨reply, listFrom, last, replied, left⟩ :=
      Session.answer_of_halted halted budget line
    · rw [session_of_exit exits]
      exact ⟨session.listFrom, session.last, rfl⟩
    · have still : reply.session.console.isRunning = false := by
        rw [left]
        exact halted
      obtain ⟨later, command, final⟩ := ih still
      rw [session_of_reply replied, final, left]
      exact ⟨later, command, rfl⟩

/-- A line that is not understood or that asks to look at something leaves the console as it is. A
register is changed to a value that fits it and no other register with it, and a key event decides
its own key. While the machine is halted every line is answered, and nothing of the session changes
but the place of the next listing and the command that is repeated. -/
theorem inspection_disturbs_nothing (session : Session) (budget : Nat) :
    (∀ line,
      let after := (Transcript.ofLines budget session [line]).session
      (∀ event, session.commandOf line = .error event → after = session) ∧
      (∀ command, session.commandOf line = .ok command → command.inspects = true →
        session.answer budget line ≠ .unfinished ∧ after.console = session.console) ∧
      (∀ name value, session.commandOf line = .ok (.set name value) →
        session.answer budget line ≠ .unfinished ∧
        if value.toNat ≤ name.limit ∧ session.console.isRunning = true then
          ∃ registers, after.console = { session.console with machine.registers := registers } ∧
            registers.stack = session.machine.registers.stack ∧
            ∀ other, registers.getNamed other =
              if other = name then value else session.machine.registers.getNamed other
        else after.console = session.console) ∧
      ∀ key pressed, session.commandOf line = .ok (.key key pressed) →
        session.answer budget line ≠ .unfinished ∧
        if key.toNat < keyCount ∧ session.console.isRunning = true then
          ∃ keypad, after.console = { session.console with machine.keypad := keypad } ∧
            ∀ other, keypad.isDown other =
              if other = key then pressed else session.machine.keypad.isDown other
        else after.console = session.console) ∧
    (session.console.isRunning = false →
      (∀ line, session.answer budget line ≠ .unfinished) ∧
      ∀ lines, ∃ listFrom last,
        (Transcript.ofLines budget session lines).session = { session with listFrom, last }) := by
  refine ⟨fun line => ⟨?_, ?_, ?_, ?_⟩, fun halted => ⟨?_, ?_⟩⟩
  · intro event unread
    exact Transcript.session_of_reply (Session.answer_of_unread unread) []
  · intro command asked inspects
    exact Transcript.console_of_asked budget asked
      (Session.consoleAfter?_of_inspects inspects budget)
  · intro name value asked
    obtain ⟨finished, left⟩ := Transcript.console_of_asked budget asked rfl
    rw [left]
    exact ⟨finished, session.console.whenRunning_withRegister name value⟩
  · intro key pressed asked
    obtain ⟨finished, left⟩ := Transcript.console_of_asked budget asked rfl
    rw [left]
    exact ⟨finished, session.console.whenRunning_withKey key pressed⟩
  · intro line
    obtain exits | ⟨reply, _, _, replied, -⟩ := Session.answer_of_halted halted budget line
    · rw [exits]
      exact Answer.noConfusion
    · rw [replied]
      exact Answer.noConfusion
  · exact Transcript.session_of_halted halted budget

end Debugger

end Chip8
