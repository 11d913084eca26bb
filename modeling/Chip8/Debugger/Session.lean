import Chip8.Debugger.Command
import Chip8.Debugger.Continue
import Chip8.Listing
import Chip8.Machine.Summary
import Chip8.Console.News

/-! # Debugger sessions

The state of a session, and what it shows of itself. Showing changes nothing, apart from the place
where the next listing goes on.
-/

namespace Chip8.Debugger

structure Session where
  console : Console Terminal
  /-- Addresses where a free run stops, each once. -/
  breakpoints : List Address := []
  /-- Where the next listing begins, if not at the program counter. -/
  listFrom : Option Address := none
  /-- The last command that was understood. -/
  last : Option Command := none

namespace Session

def machine (session : Session) : Machine := session.console.machine

def sortedBreakpoints (session : Session) : List Address :=
  session.breakpoints.mergeSort fun a b => decide (a ≤ b)

/-- The marks in front of a listed line. -/
def gutter (session : Session) (address : Address) : String :=
  let mark := if session.breakpoints.contains address then "B" else " "
  let pointer := if session.machine.registers.pc == address then ">" else " "
  mark ++ pointer

/-- The line for an address, which may lie outside memory. -/
def lineAt (session : Session) (address : Address) : Event :=
  let text := match session.machine.memory.readWord address with
    | .ok word => (Listing.Line.ofWord address word).text
    | .error _ => s!"{Text.addressText address.toNat}  –"
  .info s!"{session.gutter address} {text}"

/-- The line for the next instruction. -/
def currentLine (session : Session) : Event := session.lineAt session.machine.registers.pc

/-- How many breakpoints there are, and the line for each. -/
def breakpointEvents (session : Session) : List Event :=
  let headline := match session.breakpoints.length with
    | 0 => "No breakpoints"
    | 1 => "1 breakpoint:"
    | count => s!"{count} breakpoints:"
  .info headline :: session.sortedBreakpoints.map session.lineAt

def cycleEvent (session : Session) : Event := .info s!"Cycles: {session.machine.cycles}"

def timerEvent (session : Session) : Event :=
  .info "Timers" [("delay", toString session.machine.timers.delay),
    ("sound", toString session.machine.timers.sound)]

def frameEvent (depth : Nat) (address : Address) : Event :=
  let shown := String.ofList ((toString depth).toList.rightpad 2 ' ')
  .info s!"  #{shown} {Text.addressText address.toNat}"

/-- The return addresses, newest first. -/
def stackEvents (session : Session) : List Event :=
  match session.machine.registers.callStack with
  | [] => [.info "Empty call stack"]
  | stack => (stack.mapIdx frameEvent).reverse

def keypadEvent (session : Session) : Event :=
  match session.machine.keypad.down with
  | [] => .info "No key down"
  | keys =>
    let names := keys.map fun key => (Text.hex 1 key.toNat).toUpper
    .info ("Keys down: " ++ String.intercalate " " names)

def topicEvents (session : Session) : Topic → List Event
  | .breakpoints => session.breakpointEvents
  | .cycles => [session.cycleEvent]
  | .timers => [session.timerEvent]
  | .stack => session.stackEvents
  | .keypad => [session.keypadEvent]
  | .dialect => [.info s!"Quirks: {session.machine.dialect.text}"]

/-- What is shown without a topic. -/
def overview (session : Session) : List Event :=
  let halt := match session.console.fault? with
    | some fault => [Event.info s!"Halted: {fault.message}" [("code", toString fault.code)]]
    | none => []
  session.breakpointEvents ++ .info "–" :: session.cycleEvent :: session.timerEvent ::
    session.keypadEvent :: halt

/-- The registers, or one of them. -/
def registerEvent (session : Session) : Option RegisterName → Event
  | none => .info s!"Registers: {session.machine.registers.text}"
  | some name =>
    let value := session.machine.registers.getNamed name
    .info s!"Register {name.text} = {Text.hexLiteral 1 value.toNat}"

/-- Bytes in rows of eight, each behind its address. -/
def byteRows (start : Nat) (bytes : List UInt8) : List Event :=
  (List.range ((bytes.length + 7) / 8)).map fun row =>
    let shown := ((bytes.drop (8 * row)).take 8).map fun byte => Text.hex 2 byte.toNat
    .info (Text.addressText (start + 8 * row) ++ "  " ++ String.intercalate " " shown)

/-- A block of memory, or the complaint that there is no such block. -/
def memoryEvents (session : Session) (address : AddressExpr) (length : Nat) : List Event :=
  match address.evaluate session.machine.registers with
  | .error problem => [.failure problem.message]
  | .ok start =>
    match session.machine.memory.readRange start.toNat length with
    | .error refusal => [.failure refusal.message]
    | .ok bytes => byteRows start.toNat bytes

/-- Where the next listing begins. -/
def listStart (session : Session) : Address := session.listFrom.getD session.machine.registers.pc

/-- The lines of the next listing. -/
def listEvents (session : Session) (count : Nat) : List Event :=
  (Listing.addresses session.listStart count).map session.lineAt

/-- The session after a listing, which the next one continues. It stays at the last address once
that is reached. -/
def afterList (session : Session) (count : Nat) : Session :=
  { session with listFrom := some (min 65535 (session.listStart.toNat + 2 * count)).toUInt16 }

end Session

end Chip8.Debugger
