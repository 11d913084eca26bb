import Chip8.Console
import Chip8.Screen.Terminal

/-! # Running up to a stop

A free run goes in rounds: an instruction, and after every few of them a timer cycle. It stops with
a fault, at a breakpoint, or when nothing but a key event could change anything any more. Nothing
says that it ever stops, so the number of rounds is bounded from outside, and a run that reaches the
bound has no result.
-/

namespace Chip8.Debugger

/-- Rounds from one timer cycle to the next. -/
abbrev roundsPerTimerCycle : Nat := cpuFrequency / timerFrequency

inductive Stop where
  | halted (fault : Fault)
  | breakpoint
  | stuck
deriving DecidableEq, Repr

/-- Whether a machine waits for a key with none down, or has jumped to where it was. -/
def isStuck (machine : Machine) (before : Address) : Bool :=
  match machine.mode with
  | .waitingForKey _ => machine.keypad.first?.isNone
  | .running => machine.registers.pc == before

/-- The round with a number, the first being one. A fault leaves out the timer cycle. -/
def round (console : Console Terminal) (number : Nat) : Console Terminal :=
  let console := console.step
  if console.fault?.isSome then console
  else if number % roundsPerTimerCycle = 0 then console.tickTimers
  else console

/-- Why to stop after a round that began at an address. -/
def stop? (breakpoints : List Address) (before : Address) (console : Console Terminal) :
    Option Stop :=
  match console.fault? with
  | some fault => some (.halted fault)
  | none =>
    if breakpoints.contains console.machine.registers.pc then some .breakpoint
    else if isStuck console.machine before then some .stuck
    else none

/-- Rounds from the one with a number on, until one of them stops the run. -/
def runFrom? (breakpoints : List Address) (console : Console Terminal) (number : Nat) :
    (budget : Nat) → Option (Console Terminal × Stop)
  | 0 => none
  | budget + 1 =>
    let after := round console number
    match stop? breakpoints console.machine.registers.pc after with
    | some stop => some (after, stop)
    | none => runFrom? breakpoints after (number + 1) budget

/-- A free run of at most `budget` rounds. -/
def run? (breakpoints : List Address) (budget : Nat) (console : Console Terminal) :
    Option (Console Terminal × Stop) :=
  runFrom? breakpoints console 1 budget

end Chip8.Debugger
