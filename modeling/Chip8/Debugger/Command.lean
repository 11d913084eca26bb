import Chip8.Arguments.Reading
import Chip8.Debugger.Expression
import Chip8.Keypad.Name
import Chip8.Text.Decimal

/-! # Commands of the debugger

What can be asked of the debugger, and the grammar of its command lines. Commands may be abbreviated
as long as no other command begins alike.
-/

namespace Chip8.Debugger

/-- What can be shown of a session. -/
inductive Topic where
  | breakpoints
  | cycles
  | timers
  | stack
  | keypad
  | dialect
deriving DecidableEq, Repr

inductive Command where
  | step (count : Nat)
  | exit
  | registers (name : Option RegisterName)
  | set (name : RegisterName) (value : Word)
  | memory (address : AddressExpr) (length : Nat)
  | list (count : Nat)
  | break (address : AddressExpr)
  | unbreak (address : AddressExpr)
  | continue
  | key (key : UInt8) (pressed : Bool)
  | timers (cycles : Nat)
  | screen
  | info (topic : Option Topic)
deriving DecidableEq, Repr

inductive Verb where
  | step
  | exit
  | registers
  | set
  | memory
  | list
  | break
  | unbreak
  | continue
  | key
  | timers
  | screen
  | info
deriving DecidableEq, Repr

/-- What one word of a command line says. -/
inductive Item where
  | verb (verb : Verb)
  | count (count : Nat)
  | register (name : RegisterName)
  | value (value : Word)
  | address (address : AddressExpr)
  | key (key : UInt8)
  | action (pressed : Bool)
  | topic (topic : Topic)
deriving DecidableEq, Repr

/-- The command that items make, arguments left out having their usual values. -/
def Command.ofItems? : List Item → Option Command
  | [.verb .step] => some (.step 1)
  | [.verb .step, .count count] => some (.step count)
  | [.verb .exit] => some .exit
  | [.verb .registers] => some (.registers none)
  | [.verb .registers, .register name] => some (.registers (some name))
  | [.verb .set, .register name, .value value] => some (.set name value)
  | [.verb .memory, .address address] => some (.memory address 16)
  | [.verb .memory, .address address, .count length] => some (.memory address length)
  | [.verb .list] => some (.list 10)
  | [.verb .list, .count count] => some (.list count)
  | [.verb .break, .address address] => some (.break address)
  | [.verb .unbreak, .address address] => some (.unbreak address)
  | [.verb .continue] => some .continue
  | [.verb .key, .key number] => some (.key number true)
  | [.verb .key, .key number, .action pressed] => some (.key number pressed)
  | [.verb .timers] => some (.timers 1)
  | [.verb .timers, .count cycles] => some (.timers cycles)
  | [.verb .screen] => some .screen
  | [.verb .info] => some (.info none)
  | [.verb .info, .topic topic] => some (.info (some topic))
  | _ => none

namespace Grammar

open Arguments

def count (read : String → Except String Nat) : Positional Item where
  name := "number"
  isRequired := false
  reader := .explained fun text => (read text).map .count

def longCount : Positional Item :=
  count fun text => (Text.unsignedOfText Text.maxUnsigned64 text).mapError (·.message)

def countUpTo (limit : Nat) : Positional Item := count (Text.boundedOfText limit)

def register (isRequired : Bool) : Positional Item where
  name := "register"
  isRequired
  reader := {
    read text := match RegisterName.ofText? text with
      | some name => .ok (.register name)
      | none => .error (.because RegisterName.unknownMessage)
    listed := RegisterName.all.map (·.text) }

def value : Positional Item where
  name := "value"
  reader := .explained fun text => ((numberOfText text).mapError (·.message)).map .value

/-- An address, for which some words are offered. -/
def address (listed : List String) : Positional Item where
  name := "address"
  reader := {
    read text := match AddressExpr.ofText text with
      | .ok address => .ok (.address address)
      | .error problem => .error (.because problem.message)
    listed }

def key : Positional Item where
  name := "key"
  reader := {
    read text := match Keypad.keyOfText? text with
      | some key => .ok (.key key)
      | none => .error (.because (Keypad.unknownMessage text))
    listed := Keypad.names }

def action : Positional Item where
  name := "action"
  isRequired := false
  reader := .oneOf [("press", .action true), ("release", .action false)]

def verb (name : String) (verb : Verb) (about : String)
    (positionals : List (Positional Item) := []) : Arguments.Command Item :=
  { name, about, meaning := [.verb verb], positionals }

def topic (name : String) (topic : Topic) (about : String) : Arguments.Command Item :=
  { name, about, meaning := [.topic topic] }

def info : Arguments.Command Item :=
  { verb "info" .info "Show informations about the current debugging session" with
    abbreviates := true
    subcommands := [
      topic "breakpoints" .breakpoints "List active breakpoints",
      topic "cycles" .cycles
        "Show the number of instructions executed since the beginning of the program",
      topic "timers" .timers "Show the delay and sound timers",
      topic "stack" .stack "Show the call stack",
      topic "keypad" .keypad "Show the keys held down",
      topic "quirks" .dialect "Show the compatibility quirks in use"] }

end Grammar

/-- The grammar of a command line. The breakpoints are offered where one is to be removed. -/
def grammar (breakpoints : List Address) : Arguments.Command Item where
  name := "debugger"
  about := "Interactive mode commands"
  needsSubcommand := true
  abbreviates := true
  subcommands := [
    { Grammar.verb "step" .step "Execute the next instructions" [Grammar.longCount] with
      aliases := ["s"] },
    Grammar.verb "exit" .exit "Exit the emulator",
    Grammar.verb "registers" .registers "Show the state of registers" [Grammar.register false],
    Grammar.verb "set" .set "Set a register" [Grammar.register true, Grammar.value],
    Grammar.verb "memory" .memory "Show the content of a block in memory"
      [Grammar.address ["pc", "i"], Grammar.countUpTo 65535],
    Grammar.verb "list" .list "Show the next few instructions" [Grammar.countUpTo 65535],
    Grammar.verb "break" .break "Set a breakpoint" [Grammar.address ["pc", "i"]],
    Grammar.verb "unbreak" .unbreak "Remove a breakpoint"
      [Grammar.address (breakpoints.map fun address => Text.addressText address.toNat)],
    Grammar.verb "continue" .continue
      "Continue the program until the next breakpoint, a halt or a key wait",
    Grammar.verb "key" .key "Press or release a key of the keypad" [Grammar.key, Grammar.action],
    Grammar.verb "timers" .timers "Run cycles of the 60 Hz timers" [Grammar.countUpTo 4294967295],
    Grammar.verb "screen" .screen "Print the screen",
    Grammar.info]

def Command.ofWords (words : List String) : Except Arguments.Problem Command := do
  let levels ← (grammar []).read words
  match ofItems? levels.flatten with
  | some command => .ok command
  | none => .error .missingArguments

end Chip8.Debugger
