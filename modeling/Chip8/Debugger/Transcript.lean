import Chip8.Debugger.Execute
import Chip8.Debugger.Line

/-! # Transcripts

A whole session: for each line a prompt and what the line gives rise to, up to `exit` or the end of
the input. An empty line repeats the last command that was understood.
-/

namespace Chip8.Debugger

namespace Session

def prompt (session : Session) : Output :=
  .prompt s!"{Text.addressText session.machine.registers.pc.toNat}> "

/-- The command that a line asks for, or what to say instead. -/
def commandOf (session : Session) (line : String) : Except Event Command :=
  if line.isEmpty then
    match session.last with
    | some command => .ok command
    | none => .error (.info "Type \"help\" to get the list of available commands")
  else
    match Text.splitWords? line with
    | none => .error (.warn "Invalid input")
    | some words => (Command.ofWords words).mapError fun problem => .failure problem.message

def greeting : Output :=
  .event (.info "Running in interactive mode. Type \"help\" to list available commands.")

/-- What a session says at the end of the input. -/
def farewell : Output := .event (.info "EOF, exitting")

end Session

inductive Answer where
  /-- The session goes on. -/
  | reply (reply : Reply)
  /-- The session is over. -/
  | exit
  /-- The machine would run on. -/
  | unfinished

/-- The answer to a line, a free run being limited to `budget` rounds. -/
def Session.answer (session : Session) (budget : Nat) (line : String) : Answer :=
  match session.commandOf line with
  | .error event => .reply (session.say [event])
  | .ok .exit => .exit
  | .ok command =>
    match Session.execute? { session with last := some command } budget command with
    | some reply => .reply reply
    | none => .unfinished

/-- What a session shows, and where it ends. -/
structure Transcript where
  session : Session
  outputs : List Output

namespace Transcript

/-- A transcript with something in front of it. -/
def behind (transcript : Transcript) (outputs : List Output) : Transcript :=
  { transcript with outputs := outputs ++ transcript.outputs }

/-- The transcript of some lines. It ends early with `exit`, or with a free run that goes on. -/
def ofLines (budget : Nat) (session : Session) : List String → Transcript
  | [] => ⟨session, [session.prompt, Session.farewell]⟩
  | line :: rest =>
    match session.answer budget line with
    | .reply reply => (ofLines budget reply.session rest).behind (session.prompt :: reply.outputs)
    | .exit | .unfinished => ⟨session, [session.prompt]⟩

/-- The transcript of a session with a console. -/
def ofInput (budget : Nat) (console : Console Terminal) (lines : List String) : Transcript :=
  (ofLines budget { console } lines).behind [Session.greeting]

end Transcript

end Chip8.Debugger
