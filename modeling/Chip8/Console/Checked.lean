import Chip8.Console
import Chip8.Machine.Checked

/-! # Requests over arithmetic that has to fit

What the owner of a console asks of it, carried out by the checked activities of the machine. Timer
cycles, pauses and stops compute nothing that could fail to fit, and the clock is compared by a
difference that wraps around on purpose.
-/

namespace Chip8.Console.Checked

universe u

variable {η : Type u}

def act (console : Console η) (action : Machine → η → Option (Machine × η)) : Option (Console η) :=
  (action console.machine console.host).map fun (machine, host) => { console with machine, host }

def whenRunning (console : Console η) (action : Console η → Option (Console η)) :
    Option (Console η) :=
  if console.isRunning then action console else some console

def load [Host η] (console : Console η) (program : List UInt8) (dialect : Dialect) :
    Option (Console η) :=
  act { console with schedule := console.schedule.reset }
    (Machine.Checked.load · · program dialect)

def pollStage [Host η] (now : UInt32) (console : Console η) : Option (Console η) :=
  let (due, input) := console.schedule.input.fire now
  let console := { console with schedule.input := input }
  if due then act console Machine.Checked.pollInput else some console

def cpuStage [Host η] (now : UInt32) (console : Console η) : Option (Console η) :=
  if console.isPaused then some console else
    let (due, cpu) := console.schedule.cpu.fire now
    let console := { console with schedule.cpu := cpu }
    if due then act console Machine.Checked.step else some console

def tickAt [Host η] (console : Console η) (now : UInt32) : Option (Console η) :=
  (whenRunning console (pollStage now)).bind fun console =>
    (whenRunning console (cpuStage now)).map fun console => console.whenRunning (timerStage now)

def step [Host η] (console : Console η) : Option (Console η) :=
  whenRunning console (act · Machine.Checked.step)

end Chip8.Console.Checked
