import Chip8.Arguments.Reading
import Chip8.Arguments.Script
import Chip8.Debugger.Expression
import Chip8.Dialect
import Chip8.Keypad.Name
import Chip8.Text.Decimal

/-! # Invocations

What can be asked of the program: to run a program, to list it, or to write a completion script. The
arguments that concern messages may stand anywhere; of those that are given more than once, the ones
nearest to the end count.
-/

namespace Chip8.CommandLine

open Arguments

def programName : String := "chippy-cli"

def versionText : String := s!"{programName} 0.3.0"

structure RunOptions where
  path : String
  dialect : Dialect := .modern
  /-- Milliseconds until the machine is stopped. -/
  duration : Nat := 1000
  /-- Keys that are down from the start. -/
  hold : List UInt8 := []
  /-- Whether the debugger takes over. -/
  isInteractive : Bool := false
deriving DecidableEq, Repr

inductive Task where
  | run (options : RunOptions)
  | disassemble (path : String) (origin : Address)
  | script (shell : Shell)
deriving DecidableEq, Repr

/-- A task, and how to tell about it. -/
structure Invocation where
  verbosity : Nat
  isColored : Bool
  isPlain : Bool
  task : Task
deriving DecidableEq, Repr

/-- What one argument says. -/
inductive Setting where
  | verbose
  | color
  | noColor
  | json
  | run
  | disassemble
  | completion
  | path (path : String)
  | preset (dialect : Dialect)
  /-- A reading of instructions, on top of those of the preset. -/
  | reading (dialect : Dialect)
  | duration (milliseconds : Nat)
  | hold (key : UInt8)
  | interactive
  | origin (address : Address)
  | shell (shell : Shell)
deriving DecidableEq, Repr

namespace Grammar

/-- The arguments that every command takes. -/
def everywhere : List (Named Setting) := [
  ⟨"verbose", some 'v', .switch false .verbose⟩,
  ⟨"color", some 'c', .switch true .color⟩,
  ⟨"no-color", some 'C', .switch true .noColor⟩,
  ⟨"json", some 'j', .switch true .json⟩]

/-- The arguments of which one at most may be given with a command. -/
def formats : List String := ["--color", "--no-color", "--json"]

/-- An argument with one value. -/
def single (read : String → Except String Setting) : Purpose Setting :=
  .valued true none (.explained read)

/-- A number of sixty-four bits. -/
def readDuration (text : String) : Except String Setting :=
  ((Text.unsignedOfText Text.maxUnsigned64 text).mapError (·.message)).map .duration

def readKey (text : String) : Except String Setting :=
  match Keypad.keyOfText? text with
  | some key => .ok (.hold key)
  | none => .error (Keypad.unknownMessage text)

def readOrigin (text : String) : Except String Setting :=
  ((Debugger.numberOfText text).mapError (·.message)).map .origin

/-- The program to work on. -/
def input : Positional Setting where
  name := "input"
  reader := .explained fun text => .ok (.path text)

def run : Command Setting where
  name := "run"
  about := "Run a program headless and print the screen it leaves"
  meaning := [.run]
  positionals := [input]
  exclusive := formats
  named := [
    ⟨"preset", none, .valued true none
      (.oneOf (Dialect.presets.map fun (name, dialect) => (name, .preset dialect)))⟩,
    ⟨"vf-reset", none, .switch true (.reading { vfReset := true })⟩,
    ⟨"shift-vx-only", none, .switch true (.reading { shiftVxOnly := true })⟩,
    ⟨"wrap-sprites", none, .switch true (.reading { wrapSprites := true })⟩,
    ⟨"increment-index", none, .switch true (.reading { incrementIndex := true })⟩,
    ⟨"duration", some 'd', single readDuration⟩,
    ⟨"hold", none, .valued false (some ',') (.explained readKey)⟩,
    ⟨"interactive", some 'i', .switch true .interactive⟩] ++ everywhere

def disassemble : Command Setting where
  name := "disasm"
  about := "Print the instructions of a program"
  meaning := [.disassemble]
  positionals := [input]
  exclusive := formats
  named := ⟨"origin", none, single readOrigin⟩ :: everywhere

def completion : Command Setting where
  name := "completion"
  about := "Generate shell completions"
  meaning := [.completion]
  positionals := [{
    name := "shell"
    reader := .oneOf (Shell.names.map fun (name, shell) => (name, .shell shell)) }]
  exclusive := formats
  named := everywhere

end Grammar

def grammar : Command Setting where
  name := "chippy"
  about := "A CHIP-8/SCHIP interpreter core driven by a cooperative host loop"
  exclusive := Grammar.formats
  named := Grammar.everywhere ++ [⟨"version", some 'V', .request (.version versionText)⟩]
  subcommands := [Grammar.run, Grammar.disassemble, Grammar.completion]
  needsSubcommand := true

namespace Setting

def path? : Setting → Option String
  | .path text => some text
  | _ => none

def shell? : Setting → Option Shell
  | .shell kind => some kind
  | _ => none

/-- Run options with one more setting. -/
def applyTo (options : RunOptions) : Setting → RunOptions
  | .duration milliseconds => { options with duration := milliseconds }
  | .hold key => { options with hold := options.hold ++ [key] }
  | .interactive => { options with isInteractive := true }
  | _ => options

/-- The dialect that a setting asks for on top of another. -/
def extend (dialect : Dialect) : Setting → Dialect
  | .reading more => dialect.union more
  | _ => dialect

end Setting

/-- The preset of some settings with the further readings of instructions that they ask for. -/
def dialectOf (settings : List Setting) : Dialect :=
  let preset := settings.findSome? fun
    | .preset dialect => some dialect
    | _ => none
  settings.foldl Setting.extend (preset.getD .modern)

/-- Where a listing begins. -/
def originOf (settings : List Setting) : Address :=
  (settings.findSome? fun
    | .origin address => some address
    | _ => none).getD programStart.toUInt16

def Task.ofSettings? (settings : List Setting) : Option Task :=
  if settings.contains .run then
    (settings.findSome? Setting.path?).map fun path =>
      .run (settings.foldl Setting.applyTo { path, dialect := dialectOf settings })
  else if settings.contains .disassemble then
    (settings.findSome? Setting.path?).map fun path => .disassemble path (originOf settings)
  else
    (settings.findSome? Setting.shell?).map .script

/-- How often `verbose` is given at the last level that gives it. -/
def verbosityOf (levels : List (List Setting)) : Nat :=
  ((levels.map (·.count .verbose)).reverse.find? (0 < ·)).getD 0

namespace Invocation

def ofWords (words : List String) : Except Problem Invocation := do
  let levels ← grammar.read words
  let settings := levels.flatten
  match Task.ofSettings? settings with
  | none => .error .missingArguments
  | some task =>
    return {
      verbosity := verbosityOf levels
      isColored := settings.contains .color
      isPlain := settings.contains .noColor
      task }

/-- Which messages are told, by the part of the program that they come from. -/
def logFilter (invocation : Invocation) : String :=
  match invocation.verbosity with
  | 0 => "info"
  | 1 => "chippy_emulator=debug,chippy_cli=debug,info"
  | 2 => "chippy_emulator=trace,chippy_cli=trace,info"
  | 3 => "chippy_emulator=trace,chippy_cli=trace,debug"
  | _ => "trace"

def saysColor (invocation : Invocation) : Bool := invocation.isColored || invocation.isPlain

end Invocation

end Chip8.CommandLine
