import Chip8.Proofs.Dialogue
import Chip8.Proofs.FreeRuns

/-! # What lasts through a session

A session runs its machine by steps and timer cycles only, and otherwise sets registers and keys. A
property of the console that these four keep lasts through every command, every dialogue and every
transcript, however often a command repeats them.
-/

namespace Chip8.Debugger

/-- A property of the console that every activity of a session keeps. -/
structure Persists (holds : Console Terminal → Prop) : Prop where
  step : ∀ {console}, holds console → holds console.step
  cycle : ∀ {console}, holds console → holds console.tickTimers
  register : ∀ {console} (name : RegisterName) (value : Word), holds console →
    holds (console.withRegister name value)
  key : ∀ {console} (key : UInt8) (pressed : Bool), holds console →
    holds (console.withKey key pressed)

namespace Persists

variable {holds : Console Terminal → Prop} {console : Console Terminal}

private theorem steps (persists : Persists holds) (before : holds console) (count : Nat) :
    holds (console.steps count) := by
  induction count generalizing console with
  | zero => exact before
  | succ count ih =>
    simp only [Console.steps]
    split
    · exact persists.step before
    · exact ih (persists.step before)

private theorem timerCycles (persists : Persists holds) (before : holds console) (count : Nat) :
    holds (console.timerCycles count) := by
  induction count generalizing console with
  | zero => exact before
  | succ count ih => exact ih (persists.cycle before)

private theorem round (persists : Persists holds) (before : holds console) (number : Nat) :
    holds (round console number) := by
  have stepped := persists.step before
  simp only [Debugger.round]
  split
  · exact stepped
  · split
    · exact persists.cycle stepped
    · exact stepped

private theorem rounds (persists : Persists holds) (before : holds console) (numbers : List Nat) :
    holds (rounds console numbers) := by
  induction numbers generalizing console with
  | nil => exact before
  | cons number rest ih => exact ih (persists.round before number)

private theorem whenRunning (before : holds console) {action : Console Terminal → Console Terminal}
    (kept : holds (action console)) : holds (console.whenRunning action) := by
  unfold Console.whenRunning
  split
  · exact kept
  · exact before

theorem consoleAfter? (persists : Persists holds) {session : Session} {budget : Nat}
    {command : Command} (before : holds session.console)
    (after : session.consoleAfter? budget command = some console) : holds console := by
  cases command with
  | step count =>
    cases after
    exact whenRunning before (persists.steps before count)
  | set name value =>
    cases after
    exact whenRunning before (persists.register name value before)
  | key key pressed =>
    cases after
    exact whenRunning before (persists.key key pressed before)
  | timers cycles =>
    cases after
    exact whenRunning before (persists.timerCycles before cycles)
  | «continue» =>
    simp only [Session.consoleAfter?] at after
    split at after
    · obtain ⟨⟨final, stop⟩, ran, rfl⟩ := Option.map_eq_some_iff.mp after
      obtain ⟨count, -, rfl, -⟩ := runFrom?_eq_some_iff.mp ran
      exact persists.rounds before _
    · cases after
      exact before
  | exit | registers | memory | list | «break» | unbreak | screen | info =>
    cases after
    exact before

private theorem dialogue (persists : Persists holds) {budget : Nat} {session final : Session}
    {commands : List Command} (dialogue : Dialogue budget session commands final)
    (before : holds session.console) : holds final.console := by
  induction dialogue with
  | nil => exact before
  | @cons session final line command reply commands asked goesOn executed tail ih =>
    have after := Session.consoleAfter?_of_executed executed
    exact ih (persists.consoleAfter? before after)

/-- What persists still holds where a transcript ends. -/
theorem transcript (persists : Persists holds) (budget : Nat) {session : Session}
    (before : holds session.console) (lines : List String) :
    holds (Transcript.ofLines budget session lines).session.console := by
  obtain ⟨commands, dialogue⟩ := Transcript.exists_dialogue budget session lines
  exact persists.dialogue dialogue before

end Persists

end Chip8.Debugger
