import Chip8.CommandLine.Outcome

/-! # The program

The outer layer around the command line: it reads files and the standard input, keeps an eye on the
clock, and shows what it is given to show. Events go to the standard error stream, everything else
to the standard output.
-/

namespace Chip8.CommandLine

/-- Show a piece of output at once. -/
def tell : Output → IO Unit
  | .event told => IO.eprintln told.line
  | .prompt shown | .text shown => do
    IO.print shown
    (← IO.getStdout).flush

/-- The number of a system error, which the system library may give as its negative. -/
def osNumber (code : UInt32) : UInt32 := min code (0 - code)

/-- Why the system could not read a file. -/
def problemOf : IO.Error → FileProblem
  | .noFileOrDirectory .. => .notFound
  | .inappropriateType _ code _ => if osNumber code = 20 then .notADirectory else .isADirectory
  | .invalidArgument _ code details =>
    if osNumber code = 36 then .nameTooLong else .other s!"{details} (os error {osNumber code})"
  | .permissionDenied _ code details => .other s!"{details} (os error {osNumber code})"
  | problem => .other (toString problem)

def readFile (path : String) : IO (Except FileProblem (List UInt8)) := do
  if path.toList.contains '\x00' then return .error .nulByte
  try return .ok (← IO.FS.readBinFile path).toList
  catch problem => return .error (problemOf problem)

/-- More rounds than a free run of the debugger can take. -/
def budget : Nat := Text.maxUnsigned64

/-- Tick with the clock until the machine stops or the time is over. -/
partial def runUntil (start deadline : Nat) (console : Console Terminal) :
    IO (Console Terminal) := do
  let now ← IO.monoMsNow
  if console.isRunning && now < deadline then
    runUntil start deadline (console.tickAt (UInt32.ofNat (now - start)))
  else
    return console

/-- Converse with the user up to `exit` or the end of the input. -/
partial def converse (session : Debugger.Session) (text : List Char) : IO Unit := do
  let piece ← (← IO.getStdin).getLine
  if piece.isEmpty then
    tell Debugger.Session.farewell
  else
    match Debugger.Reading.ofPiece text piece.toList with
    | .unfinished text => converse session text
    | .finished line =>
      match session.answer budget line with
      | .reply reply =>
        reply.outputs.forM tell
        tell reply.session.prompt
        converse reply.session []
      | .exit | .unfinished => return

/-- Show an outcome, and give the status to end with. -/
def conclude (outcome : Outcome) : IO UInt32 := do
  outcome.outputs.forM tell
  match outcome.failure with
  | some failure => tell (.event ⟨.error, failure.message, []⟩)
  | none => pure ()
  return outcome.exitStatus.toUInt32

/-- Run a program on the clock, or debug it. -/
def runLive (options : RunOptions) (console : Console Terminal) : IO UInt32 := do
  tell options.loadEvent
  if options.isInteractive then
    tell Debugger.Session.greeting
    let session : Debugger.Session := { console }
    tell session.prompt
    converse session []
    return 0
  else
    tell options.runEvent
    let start ← IO.monoMsNow
    conclude (runOutcome console (← runUntil start (start + options.duration) console))

/-- Carry out a task, giving the status to end with. -/
def carryOut (task : Task) : IO UInt32 := do
  let random := RandomSource.ofSeed (← IO.monoNanosNow).toUInt64
  match task with
  | .run options =>
    tell (readEvent options.path)
    match ← readFile options.path with
    | .error problem => conclude ⟨[], some (.unreadable options.path problem)⟩
    | .ok program =>
      let console := options.console random program
      match loadFailure? console with
      | some outcome => conclude outcome
      | none => runLive options console
  | .disassemble path _ =>
    let contents ← readFile path
    conclude (perform ⟨fun _ => contents, [], random, 0⟩ task)
  | .script _ => conclude (perform ⟨fun _ => .error .notFound, [], random, 0⟩ task)

end Chip8.CommandLine

open Chip8 CommandLine

/-- Answer the command line. -/
def main (arguments : List String) : IO UInt32 := do
  match Invocation.ofWords arguments with
  | .ok invocation => carryOut invocation.task
  | .error problem =>
    if problem.isAnswer then IO.println problem.message else IO.eprintln problem.message
    return problem.exitStatus.toUInt32
