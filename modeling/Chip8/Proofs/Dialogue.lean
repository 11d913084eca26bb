import Chip8.Debugger.Transcript

/-! # Dialogues with the debugger

A session answers its lines one after the other, and a line that is understood makes it execute a
command. A dialogue lists these commands, each asked for by some line; `exists_dialogue` says that
the session of every transcript is where a dialogue ends. What a command does to the console is said
once, by `consoleAfter?`: most commands leave it alone, and all of them do while the machine is
halted.
-/

namespace Chip8

universe u

variable {η : Type u}

namespace Console

/-- The console with one register changed, if the register can hold the value. -/
def withRegister (console : Console η) (name : RegisterName) (value : Word) : Console η :=
  match console.machine.registers.setNamed name value with
  | .ok registers => { console with machine.registers := registers }
  | .error _ => console

/-- The console with one key pressed or released, if there is such a key. -/
def withKey (console : Console η) (key : UInt8) (pressed : Bool) : Console η :=
  match console.machine.keypad.set key pressed with
  | .ok keypad => { console with machine.keypad := keypad }
  | .error _ => console

end Console

namespace Debugger

namespace Command

/-- Whether a command shows something or concerns the session, but neither runs nor changes the
machine. -/
def inspects : Command → Bool
  | .exit | .registers _ | .memory .. | .list _ | .break _ | .unbreak _ | .screen | .info _ => true
  | .step _ | .set .. | .continue | .key .. | .timers _ => false

def executes : Command → Bool
  | .step _ | .continue => true
  | _ => false

end Command

namespace Session

/-- The console that a command leaves, unless a free run takes more rounds than `budget`. -/
def consoleAfter? (session : Session) (budget : Nat) : Command → Option (Console Terminal)
  | .step count => some (session.console.whenRunning (·.steps count))
  | .set name value => some (session.console.whenRunning (·.withRegister name value))
  | .key key pressed => some (session.console.whenRunning (·.withKey key pressed))
  | .timers cycles => some (session.console.whenRunning (·.timerCycles cycles))
  | .continue =>
    if session.console.isRunning then
      (run? session.breakpoints budget session.console).map Prod.fst
    else some session.console
  | .exit | .registers _ | .memory .. | .list _ | .break _ | .unbreak _ | .screen | .info _ =>
    some session.console

section Execution

variable {session : Session} {budget : Nat} {command : Command}

theorem unlessHalted_of_running (running : session.console.isRunning = true)
    (action : Option Reply) : session.unlessHalted action = action := if_pos running

theorem unlessHalted_of_halted (halted : session.console.isRunning = false)
    (action : Option Reply) :
    session.unlessHalted action =
      some (session.say [.warn "Machine is halted. Use \"exit\" to quit"]) := by
  rw [unlessHalted, halted]
  rfl

private theorem console_setRegister (session : Session) (name : RegisterName) (value : Word) :
    (session.setRegister name value).session.console =
      session.console.withRegister name value := by
  simp only [setRegister, Console.withRegister, machine]
  cases session.console.machine.registers.setNamed name value <;> rfl

private theorem console_setKey (session : Session) (key : UInt8) (pressed : Bool) :
    (session.setKey key pressed).session.console = session.console.withKey key pressed := by
  simp only [setKey, Console.withKey, machine]
  cases session.console.machine.keypad.set key pressed <;> rfl

private theorem console_withAddress (session : Session) (address : AddressExpr)
    {action : Address → Reply}
    (kept : ∀ address, (action address).session.console = session.console) :
    (session.withAddress address action).session.console = session.console := by
  unfold withAddress
  split
  · exact kept _
  · rfl

private theorem console_setBreakpoint (session : Session) (address : Address) :
    (session.setBreakpoint address).session.console = session.console := by
  unfold setBreakpoint
  split <;> rfl

private theorem console_removeBreakpoint (session : Session) (address : Address) :
    (session.removeBreakpoint address).session.console = session.console := by
  unfold removeBreakpoint
  split <;> rfl

/-- What a command does to the console, and whether it has a reply at all. -/
theorem map_execute? (session : Session) (budget : Nat) (command : Command) :
    (session.execute? budget command).map (·.session.console) =
      session.consoleAfter? budget command := by
  cases running : session.console.isRunning with
  | true =>
    cases command with
    | exit | registers | memory | list | screen => rfl
    | info topic => cases topic <;> rfl
    | «break» address =>
      simp only [execute?, unlessHalted_of_running running, Option.map_some, consoleAfter?]
      exact congrArg some (session.console_withAddress address session.console_setBreakpoint)
    | unbreak address =>
      simp only [execute?, unlessHalted_of_running running, Option.map_some, consoleAfter?]
      exact congrArg some (session.console_withAddress address session.console_removeBreakpoint)
    | step count =>
      simp only [execute?, unlessHalted_of_running running, Option.map_some, consoleAfter?,
        Console.whenRunning, running, if_true]
      rfl
    | set name value =>
      simp only [execute?, unlessHalted_of_running running, Option.map_some, consoleAfter?,
        Console.whenRunning, running, if_true, console_setRegister]
    | key key pressed =>
      simp only [execute?, unlessHalted_of_running running, Option.map_some, consoleAfter?,
        Console.whenRunning, running, if_true, console_setKey]
    | timers cycles =>
      simp only [execute?, unlessHalted_of_running running, Option.map_some, consoleAfter?,
        Console.whenRunning, running, if_true]
      rfl
    | «continue» =>
      simp only [execute?, unlessHalted_of_running running, consoleAfter?, running, if_true,
        continue?, Option.map_map]
      rfl
  | false =>
    cases command with
    | exit | registers | memory | list | screen => rfl
    | info topic => cases topic <;> rfl
    | «break» | unbreak | step | set | key | timers | «continue» =>
      simp only [execute?, unlessHalted_of_halted running, Option.map_some, consoleAfter?,
        Console.whenRunning, running, Bool.false_eq_true, if_false]
      rfl

/-- A halted machine answers every command, and only the place of the next listing may move. -/
theorem execute?_of_halted (halted : session.console.isRunning = false) (budget : Nat)
    (command : Command) : ∃ reply listFrom,
      session.execute? budget command = some reply ∧ reply.session = { session with listFrom } := by
  cases command with
  | list count => exact ⟨_, _, rfl, rfl⟩
  | exit | registers | memory | screen => exact ⟨_, session.listFrom, rfl, rfl⟩
  | info topic => cases topic <;> exact ⟨_, session.listFrom, rfl, rfl⟩
  | «break» | unbreak | step | set | key | timers | «continue» =>
    exact ⟨_, session.listFrom, unlessHalted_of_halted halted _, rfl⟩

end Execution

section Answers

variable {session : Session} {budget : Nat} {line : String}

theorem answer_of_unread {event : Event} (unread : session.commandOf line = .error event) :
    session.answer budget line = .reply (session.say [event]) := by
  rw [answer, unread]

theorem answer_of_exit (asked : session.commandOf line = .ok .exit) :
    session.answer budget line = .exit := by
  rw [answer, asked]

theorem answer_of_asked {command : Command} (asked : session.commandOf line = .ok command)
    (goesOn : command ≠ .exit) :
    session.answer budget line =
      match Session.execute? { session with last := some command } budget command with
      | some reply => .reply reply
      | none => .unfinished := by
  rw [answer, asked]
  cases command with
  | exit => contradiction
  | _ => rfl

/-- The last command is remembered for the next line, and nothing else depends on it. -/
theorem consoleAfter?_last (session : Session) (budget : Nat) (last : Option Command)
    (command : Command) :
    consoleAfter? { session with last } budget command = session.consoleAfter? budget command := by
  cases command <;> rfl

/-- The console that a command leaves in the session that remembers it. -/
theorem consoleAfter?_of_executed {command : Command} {reply : Reply}
    (executed : Session.execute? { session with last := some command } budget command =
      some reply) : session.consoleAfter? budget command = some reply.session.console := by
  rw [← session.consoleAfter?_last budget (some command), ← map_execute?, executed]
  rfl

/-- A command whose console is known has a reply. -/
theorem exists_reply {command : Command} {console : Console Terminal}
    (asked : session.commandOf line = .ok command) (goesOn : command ≠ .exit)
    (finished : session.consoleAfter? budget command = some console) :
    ∃ reply, session.answer budget line = .reply reply ∧ reply.session.console = console := by
  rw [← session.consoleAfter?_last budget (some command), ← map_execute?,
    Option.map_eq_some_iff] at finished
  obtain ⟨reply, executed, left⟩ := finished
  refine ⟨reply, ?_, left⟩
  rw [answer_of_asked asked goesOn, executed]

/-- A line with a reply leaves the session as it is or makes it execute a command. -/
theorem cases_of_reply {reply : Reply} (replied : session.answer budget line = .reply reply) :
    reply.session = session ∨ ∃ command, session.commandOf line = .ok command ∧
      command ≠ .exit ∧
      Session.execute? { session with last := some command } budget command = some reply := by
  cases asked : session.commandOf line with
  | error event =>
    rw [answer_of_unread asked] at replied
    cases replied
    exact .inl rfl
  | ok command =>
    by_cases exits : command = .exit
    · rw [exits] at asked
      rw [answer_of_exit asked] at replied
      contradiction
    · rw [answer_of_asked asked exits] at replied
      split at replied
      · next executed =>
        cases replied
        exact .inr ⟨command, rfl, exits, executed⟩
      · contradiction

end Answers

end Session

/-- Commands that lines make a session execute one after the other, and the session that they
leave. -/
inductive Dialogue (budget : Nat) : Session → List Command → Session → Prop
  | nil (session : Session) : Dialogue budget session [] session
  | cons {session final : Session} {line : String} {command : Command} {reply : Reply}
      {commands : List Command} (asked : session.commandOf line = .ok command)
      (goesOn : command ≠ .exit)
      (executed : Session.execute? { session with last := some command } budget command =
        some reply)
      (tail : Dialogue budget reply.session commands final) :
      Dialogue budget session (command :: commands) final

namespace Transcript

variable {budget : Nat} {session : Session} {line : String}

theorem session_of_reply {reply : Reply} (replied : session.answer budget line = .reply reply)
    (rest : List String) :
    (ofLines budget session (line :: rest)).session =
      (ofLines budget reply.session rest).session := by
  rw [ofLines, replied]
  rfl

theorem session_of_exit (exits : session.answer budget line = .exit) (rest : List String) :
    (ofLines budget session (line :: rest)).session = session := by
  rw [ofLines, exits]

theorem session_of_unfinished (endless : session.answer budget line = .unfinished)
    (rest : List String) : (ofLines budget session (line :: rest)).session = session := by
  rw [ofLines, endless]

/-- The lines of a transcript come down to the commands that they ask for. -/
theorem exists_dialogue (budget : Nat) (session : Session) (lines : List String) :
    ∃ commands, Dialogue budget session commands (ofLines budget session lines).session := by
  induction lines generalizing session with
  | nil => exact ⟨[], .nil session⟩
  | cons line rest ih =>
    cases replied : session.answer budget line with
    | exit =>
      rw [session_of_exit replied]
      exact ⟨[], .nil session⟩
    | unfinished =>
      rw [session_of_unfinished replied]
      exact ⟨[], .nil session⟩
    | reply reply =>
      rw [session_of_reply replied]
      obtain ⟨commands, dialogue⟩ := ih reply.session
      obtain same | ⟨command, asked, goesOn, executed⟩ := Session.cases_of_reply replied
      · rw [same] at dialogue ⊢
        exact ⟨commands, dialogue⟩
      · exact ⟨command :: commands, .cons asked goesOn executed dialogue⟩

/-- The console behind one line, if the command that the line asks for comes to an end. -/
theorem console_of_asked (budget : Nat) {command : Command} {console : Console Terminal}
    (asked : session.commandOf line = .ok command)
    (finished : session.consoleAfter? budget command = some console) :
    session.answer budget line ≠ .unfinished ∧
      (ofLines budget session [line]).session.console = console := by
  by_cases exits : command = .exit
  · subst exits
    have exited : session.answer budget line = .exit := Session.answer_of_exit asked
    rw [exited, session_of_exit exited]
    exact ⟨Answer.noConfusion, Option.some.inj finished⟩
  · obtain ⟨reply, replied, left⟩ := Session.exists_reply asked exits finished
    rw [replied, session_of_reply replied]
    exact ⟨Answer.noConfusion, left⟩

end Transcript

end Debugger

end Chip8
