import Chip8.Debugger.Session

/-! # Executing debugger commands

What a command does to a session and what it tells. Commands that would run or change a halted
machine are refused.
-/

namespace Chip8.Debugger

/-- What a command leaves behind. -/
structure Reply where
  session : Session
  outputs : List Output

namespace Reply

def andSay (reply : Reply) (events : Session → List Event) : Reply :=
  { reply with outputs := reply.outputs ++ (events reply.session).map .event }

end Reply

namespace Session

def say (session : Session) (events : List Event) : Reply := ⟨session, events.map .event⟩

def complain (session : Session) (message : String) : Reply := session.say [.failure message]

/-- Go on with what became of the console, and tell what happened in it. -/
def advance (session : Session) (console : Console Terminal) : Reply :=
  Session.say { session with console } (session.console.newsSince console)

/-- What is said when the machine has halted. -/
def haltWarning (fault : Fault) : Event := .warn "Halted" [("error", fault.message)]

/-- Execute some instructions, up to a fault. -/
def step (session : Session) (count : Nat) : Reply :=
  let reply := Session.advance { session with listFrom := none } (session.console.steps count)
  reply.andSay fun after =>
    match after.console.fault? with
    | some fault => [haltWarning fault]
    | none => [after.currentLine]

/-- What is said when a free run stops. -/
def stopEvents (session : Session) : Stop → List Event
  | .halted fault => [haltWarning fault]
  | .breakpoint =>
    [.info "Stopped at a breakpoint" [("address", toString session.machine.registers.pc)],
      session.currentLine]
  | .stuck =>
    [.info "Program is stuck" [("address", toString session.machine.registers.pc),
        ("mode", session.machine.mode.text)],
      session.currentLine]

/-- Run freely, unless that takes more rounds than `budget`. -/
def continue? (session : Session) (budget : Nat) : Option Reply :=
  (run? session.breakpoints budget session.console).map fun (console, stop) =>
    (Session.advance { session with listFrom := none } console).andSay (·.stopEvents stop)

def withMachine (session : Session) (machine : Machine) : Session :=
  { session with console.machine := machine }

def setRegister (session : Session) (name : RegisterName) (value : Word) : Reply :=
  let notice := Event.info s!"Setting register {name.text} to {Text.hexLiteral 1 value.toNat}"
  match session.machine.registers.setNamed name value with
  | .ok registers => (session.withMachine { session.machine with registers }).say [notice]
  | .error problem => session.say [notice, .failure problem.message]

def setKey (session : Session) (key : UInt8) (pressed : Bool) : Reply :=
  match session.machine.keypad.set key pressed with
  | .ok keypad =>
    (session.withMachine { session.machine with keypad }).say
      [.info "Keypad updated" [("key", toString key), ("pressed", toString pressed)]]
  | .error problem => session.complain problem.message

/-- Do something with the address that an expression names. -/
def withAddress (session : Session) (address : AddressExpr) (action : Address → Reply) : Reply :=
  match address.evaluate session.machine.registers with
  | .ok address => action address
  | .error problem => session.complain problem.message

def setBreakpoint (session : Session) (address : Address) : Reply :=
  let fields := [("address", toString address)]
  if session.breakpoints.contains address then
    session.say [.warn "A breakpoint was already set" fields]
  else
    Session.say { session with breakpoints := address :: session.breakpoints }
      [.info "Setting a breakpoint" fields]

def removeBreakpoint (session : Session) (address : Address) : Reply :=
  let fields := [("address", toString address)]
  if session.breakpoints.contains address then
    Session.say { session with breakpoints := session.breakpoints.erase address }
      [.info "Removing breakpoint" fields]
  else
    session.say [.warn "No breakpoint was set here" fields]

def runTimers (session : Session) (cycles : Nat) : Reply :=
  (session.advance (session.console.timerCycles cycles)).andSay fun after => [after.timerEvent]

def unlessHalted (session : Session) (action : Option Reply) : Option Reply :=
  if session.console.isRunning then action
  else some (session.say [.warn "Machine is halted. Use \"exit\" to quit"])

/-- Execute a command. A free run that takes more rounds than `budget` has no reply. -/
def execute? (session : Session) (budget : Nat) : Command → Option Reply
  | .exit => some ⟨session, []⟩
  | .registers name => some (session.say [session.registerEvent name])
  | .memory address length => some (session.say (session.memoryEvents address length))
  | .list count => some ((session.afterList count).say (session.listEvents count))
  | .screen => some ⟨session, [.text session.console.host.frame.text]⟩
  | .info none => some (session.say session.overview)
  | .info (some topic) => some (session.say (session.topicEvents topic))
  | .step count => session.unlessHalted (session.step count)
  | .set name value => session.unlessHalted (session.setRegister name value)
  | .break address => session.unlessHalted (session.withAddress address session.setBreakpoint)
  | .unbreak address => session.unlessHalted (session.withAddress address session.removeBreakpoint)
  | .continue => session.unlessHalted (session.continue? budget)
  | .key key pressed => session.unlessHalted (session.setKey key pressed)
  | .timers cycles => session.unlessHalted (session.runTimers cycles)

end Session

end Chip8.Debugger
