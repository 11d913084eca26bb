import Chip8.CommandLine.File
import Chip8.CommandLine.Invocation
import Chip8.Debugger.Transcript

/-! # Performing tasks

What a task shows and how it ends. The files, the standard input and the random bytes are given, and
the clock of a run goes on by one millisecond a tick.
-/

namespace Chip8.CommandLine

inductive Failure where
  | unreadable (path : String) (problem : FileProblem)
  | notLoaded (fault : Fault)
  | halted (fault : Fault)
deriving DecidableEq, Repr

namespace Failure

def fault? : Failure → Option Fault
  | .unreadable .. => none
  | .notLoaded fault | .halted fault => some fault

def message : Failure → String
  | .unreadable path problem => s!"could not read {path}: {problem.message}"
  | .notLoaded fault => s!"could not load the program: {fault.message}"
  | .halted fault => s!"the program halted: {fault.message}"

/-- The number of the fault, or one. -/
def exitStatus (failure : Failure) : Nat :=
  match failure.fault? with
  | some fault => fault.code
  | none => 1

end Failure

/-- What a task shows, and whether it fails. -/
structure Outcome where
  outputs : List Output
  failure : Option Failure := none
deriving DecidableEq, Repr

namespace Outcome

/-- An outcome with something in front of it. -/
def behind (outcome : Outcome) (outputs : List Output) : Outcome :=
  { outcome with outputs := outputs ++ outcome.outputs }

def exitStatus (outcome : Outcome) : Nat :=
  match outcome.failure with
  | some failure => failure.exitStatus
  | none => 0

/-- The lines on the standard output, which the log is no part of. -/
def printed (outcome : Outcome) : List String := Output.lines (outcome.outputs.filter (·.isPrinted))

end Outcome

/-- What a task finds around it. -/
structure Surroundings where
  read : String → Except FileProblem (List UInt8)
  /-- The lines of the standard input. -/
  lines : List String
  random : RandomSource
  /-- The number of rounds after which a free run of the debugger is given up. -/
  budget : Nat

def shownLines (lines : List String) : Output := .text (String.join (lines.map (· ++ "\n")))

def readEvent (path : String) : Output := .event (.info "Reading program" [("path", path)])

/-- Read the program at a path and do something with it. -/
def withProgram (surroundings : Surroundings) (path : String) (action : List UInt8 → Outcome) :
    Outcome :=
  match surroundings.read path with
  | .ok program => (action program).behind [readEvent path]
  | .error problem => ⟨[readEvent path], some (.unreadable path problem)⟩

def RunOptions.console (options : RunOptions) (random : RandomSource) (program : List UInt8) :
    Console Terminal :=
  (Console.new (.holding options.hold) random).load program options.dialect

/-- The outcome if a program could not be loaded. -/
def loadFailure? (console : Console Terminal) : Option Outcome :=
  console.fault?.map fun fault =>
    ⟨[.event (console.machine.haltEvent fault)], some (.notLoaded fault)⟩

def RunOptions.loadEvent (options : RunOptions) : Output :=
  .event (.info "Program loaded" [("quirks", options.dialect.text)])

def RunOptions.runEvent (options : RunOptions) : Output :=
  .event (.info "Running program" [("duration", toString options.duration)])

/-- What is told after a run, which began with one console and led to another. -/
def runOutcome (before after : Console Terminal) : Outcome :=
  let stopping := if after.isRunning then [Event.info "Stopping"] else []
  let summary := Event.info "End of program" [("cycles", toString after.machine.cycles),
    ("frames", toString after.host.frames), ("registers", after.machine.registers.text)]
  { outputs := (before.newsSince after ++ stopping ++ [summary]).map .event ++
      [.text after.host.frame.text]
    failure := after.fault?.map .halted }

/-- Ticks one millisecond apart, as many as asked for or until the machine stops. -/
def runFor (console : Console Terminal) (now : Nat) : (ticks : Nat) → Console Terminal
  | 0 => console
  | ticks + 1 =>
    if console.isRunning then runFor (console.tickAt (UInt32.ofNat now)) (now + 1) ticks
    else console

/-- What running or debugging a program leads to, once it is loaded. -/
def runLoaded (surroundings : Surroundings) (options : RunOptions) (console : Console Terminal) :
    Outcome :=
  if options.isInteractive then
    ⟨(Debugger.Transcript.ofInput surroundings.budget console surroundings.lines).outputs, none⟩
  else
    (runOutcome console (runFor console 1 options.duration)).behind [options.runEvent]

def perform (surroundings : Surroundings) : Task → Outcome
  | .run options =>
    withProgram surroundings options.path fun program =>
      let console := options.console surroundings.random program
      match loadFailure? console with
      | some outcome => outcome
      | none => (runLoaded surroundings options console).behind [options.loadEvent]
  | .disassemble path origin =>
    withProgram surroundings path fun program =>
      ⟨[shownLines ((Listing.ofProgram program origin).map (·.text))], none⟩
  | .script shell =>
    ⟨[shownLines (Arguments.Script.lines shell programName grammar)], none⟩

end Chip8.CommandLine
