import Chip8.Machine.Execute

/-! # Processor steps, timer cycles and input polls

The three activities of the machine, and how it halts. A processor step that faults reports the
fault to the host, clears the running bit and keeps the fault; nothing but loading a program starts
the machine again.
-/

namespace Chip8

universe u

variable {η : Type u}

namespace Machine

/-- Point the program counter at what comes after the instruction at `address`. -/
def follow (machine : Machine) (address : Address) (flow : Flow) : Machine :=
  let goto (target : Address) : Machine :=
    { machine with registers.pc := target, cycles := machine.cycles + 1 }
  match flow with
  | .next => goto (address + 2)
  | .skip => goto (address + 4)
  | .jump target => goto target
  | .waitForKey x => { machine with mode := .waitingForKey x }

/-- Give a waiting program its key: the register is written and the wait is over. -/
def resume (machine : Machine) (x : VIndex) (key : UInt8) : Machine :=
  { machine with
    registers := { machine.registers.set x key with pc := machine.registers.pc + 2 }
    mode := .running
    cycles := machine.cycles + 1 }

/-- One processor step up to a fault, which is not handled here. -/
def attempt [Host η] (machine : Machine) (host : η) : Machine × η × Option Fault :=
  match machine.mode with
  | .waitingForKey x =>
    match machine.keypad.first? with
    | some key => (machine.resume x key, host, none)
    | none => (machine, host, none)
  | .running =>
    let address := machine.registers.pc
    match machine.instructionAt address with
    | .error fault => (machine, host, some fault)
    | .ok instruction =>
      let effect := machine.execute host instruction
      match effect.outcome with
      | .error fault => (effect.machine, effect.host, some fault)
      | .ok flow => (effect.machine.follow address flow, effect.host, none)

/-- Stop for good, telling the host why. -/
def halt [Host η] (machine : Machine) (host : η) (fault : Fault) : Machine × η :=
  ({ machine with status.running := false, fault := some fault }, Host.reportFault host fault)

def step [Host η] (machine : Machine) (host : η) : Machine × η :=
  match machine.attempt host with
  | (machine, host, none) => (machine, host)
  | (machine, host, some fault) => machine.halt host fault

/-- Count the timers down, and tell the host when the sound starts or stops. -/
def tickSound [Host η] (machine : Machine) (host : η) : Machine × η :=
  let timers := machine.timers.tick
  let active := timers.isAudible
  ({ machine with timers, status.soundActive := active },
    if active != machine.status.soundActive then Host.sound host active else host)

/-- Send a pending request to clear the screen. -/
def flushClear [Host η] (machine : Machine) (host : η) : Machine × η :=
  if machine.status.clearDisplay then
    ({ machine with status.clearDisplay := false }, Host.screen host .clearing)
  else
    (machine, host)

/-- One cycle of the timers and of the display. -/
def tickTimers [Host η] (machine : Machine) (host : η) : Machine × η :=
  let (machine, host) := machine.tickSound host
  machine.flushClear host

/-- Take over what the host said about pausing and stopping. -/
def heed (machine : Machine) (input : Input) : Machine :=
  { machine with
    status.paused := input.paused
    status.running := machine.status.running && !input.stop }

/-- Apply a key event. One for no key halts the machine. -/
def press [Host η] (machine : Machine) (host : η) (event : KeyEvent) : Machine × η :=
  match machine.keypad.set event.key event.pressed with
  | .ok keypad => ({ machine with keypad }, host)
  | .error problem => machine.halt host (.ofInvalidKey problem)

/-- Ask the host for input. Pausing and stopping take effect before the key event. -/
def pollInput [Host η] (machine : Machine) (host : η) : Machine × η :=
  let (input, host) := Host.poll host (.idle machine.isPaused)
  let machine := machine.heed input
  match input.key with
  | some event => machine.press host event
  | none => (machine, host)

/-- Reset, copy a program and start it. One that does not fit halts the machine. -/
def load [Host η] (machine : Machine) (host : η) (program : List UInt8) (dialect : Dialect) :
    Machine × η :=
  let machine := machine.reset dialect
  match machine.memory.loadProgram program with
  | .ok memory => ({ machine with memory, status.running := true }, host)
  | .error refusal => machine.halt host (.ofRefusal refusal)

end Machine

end Chip8
