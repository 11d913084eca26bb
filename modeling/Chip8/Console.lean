import Chip8.Machine.Cycle
import Chip8.Schedule

/-! # The console

A machine wired to a host and driven by a clock. Each tick runs whatever is due, in the order input,
processor, timers, and ends as soon as the machine has stopped. Outside ticks, single steps and
single timer cycles can be asked for, which ignore the clock and a pause.
-/

namespace Chip8

universe u

variable {η : Type u}

/-- A machine, its schedule and its host. -/
structure Console (η : Type u) where
  machine : Machine
  schedule : Schedule
  host : η

namespace Console

/-- A console without a program. -/
def new (host : η) (random : RandomSource) : Console η := ⟨.initial random, .initial, host⟩

def isRunning (console : Console η) : Bool := console.machine.isRunning

def isPaused (console : Console η) : Bool := console.machine.isPaused

def fault? (console : Console η) : Option Fault := console.machine.fault

/-- Let the machine and the host do something together. -/
def act (console : Console η) (action : Machine → η → Machine × η) : Console η :=
  let (machine, host) := action console.machine console.host
  { console with machine, host }

def whenRunning (console : Console η) (action : Console η → Console η) : Console η :=
  if console.isRunning then action console else console

/-- Load a program and start it, the schedule beginning anew. -/
def load [Host η] (console : Console η) (program : List UInt8) (dialect : Dialect) : Console η :=
  { console with schedule := console.schedule.reset }.act (·.load · program dialect)

def pollStage [Host η] (now : UInt32) (console : Console η) : Console η :=
  let (due, input) := console.schedule.input.fire now
  let console := { console with schedule.input := input }
  if due then console.act Machine.pollInput else console

/-- The processor stage of a tick. A pause holds its cadence too. -/
def cpuStage [Host η] (now : UInt32) (console : Console η) : Console η :=
  if console.isPaused then console else
    let (due, cpu) := console.schedule.cpu.fire now
    let console := { console with schedule.cpu := cpu }
    if due then console.act Machine.step else console

def timerStage [Host η] (now : UInt32) (console : Console η) : Console η :=
  let (due, timers) := console.schedule.timers.fire now
  let console := { console with schedule.timers := timers }
  if due then console.act Machine.tickTimers else console

/-- Run whatever is due at a time. -/
def tickAt [Host η] (console : Console η) (now : UInt32) : Console η :=
  ((console.whenRunning (pollStage now)).whenRunning (cpuStage now)).whenRunning (timerStage now)

def step [Host η] (console : Console η) : Console η := console.whenRunning (·.act Machine.step)

def tickTimers [Host η] (console : Console η) : Console η :=
  console.whenRunning (·.act Machine.tickTimers)

/-- Stop the machine. Only loading a program starts it again. -/
def stop (console : Console η) : Console η := { console with machine.status.running := false }

/-- Hold or release the processor. Timers and input go on. -/
def pause (console : Console η) (paused : Bool) : Console η :=
  { console with machine.status.paused := paused }

/-- Up to `count` instructions, ending with the first fault. -/
def steps [Host η] (console : Console η) : Nat → Console η
  | 0 => console
  | count + 1 =>
    let console := console.step
    if console.fault?.isSome then console else console.steps count

def timerCycles [Host η] (console : Console η) : Nat → Console η
  | 0 => console
  | count + 1 => console.tickTimers.timerCycles count

def ticks [Host η] (console : Console η) (times : List UInt32) : Console η :=
  times.foldl tickAt console

end Console

end Chip8
