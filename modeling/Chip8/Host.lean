import Chip8.Fault
import Chip8.Text.Flags

/-! # Hosts

Everything that the machine does to the outside world goes through a host: plotting pixels,
presenting the screen, asking for input, switching the buzzer and reporting a fault. A host is any
type of states with an answer to each of these calls, so statements about the machine can speak of
all hosts at once.
-/

namespace Chip8

universe u

/-- What the host is asked to do with its screen. Bits without a meaning are kept. -/
structure Signal where
  clear : Bool := false
  update : Bool := false
  reserved : BitVec 6 := 0
deriving DecidableEq, Repr

namespace Signal

def clearing : Signal := { clear := true }

def updating : Signal := { update := true }

def ofBits (byte : BitVec 8) : Signal where
  clear := byte.getLsbD 0
  update := byte.getLsbD 1
  reserved := byte.extractLsb' 2 6

def text (signal : Signal) : String :=
  Text.flagsText [(signal.clear, "CLEAR"), (signal.update, "UPDATE")] (signal.reserved.toNat * 4)

end Signal

/-- A key going down or up. -/
structure KeyEvent where
  key : UInt8
  pressed : Bool
deriving DecidableEq, Repr

/-- What a host answers when it is asked for input. -/
structure Input where
  key : Option KeyEvent := none
  paused : Bool
  stop : Bool := false
deriving DecidableEq, Repr

/-- The answer of a host to which nothing happened. -/
def Input.idle (paused : Bool) : Input := { paused }

/-- A type of states that can serve as the outside world. -/
class Host (η : Type u) where
  /-- Flip a pixel and tell whether it was lit. -/
  drawPixel : η → Nat → Nat → Bool × η
  /-- Clear or present the screen. -/
  screen : η → Signal → η
  /-- Change the offered answer to what happened since the last question. -/
  poll : η → Input → Input × η
  /-- The buzzer starts or stops. -/
  sound : η → Bool → η
  /-- The machine halted. -/
  reportFault : η → Fault → η

/-- A host without screen, keys or sound. -/
inductive Silent where
  | silent
deriving DecidableEq, Repr

instance : Host Silent where
  drawPixel host _ _ := (false, host)
  screen host _ := host
  poll host input := (input, host)
  sound host _ := host
  reportFault host _ := host

end Chip8
