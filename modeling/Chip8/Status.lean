import Chip8.Text.Flags

/-! # Status bits

Four named bits that say what the machine is doing. The upper half of the byte has no meaning here
and is kept as it is given.
-/

namespace Chip8

structure Status where
  running : Bool := false
  paused : Bool := false
  clearDisplay : Bool := false
  soundActive : Bool := false
  reserved : BitVec 4 := 0
deriving DecidableEq, Repr

namespace Status

def empty : Status := {}

def ofBits (byte : BitVec 8) : Status where
  running := byte.getLsbD 0
  paused := byte.getLsbD 1
  clearDisplay := byte.getLsbD 2
  soundActive := byte.getLsbD 3
  reserved := byte.extractLsb' 4 4

def bits (status : Status) : BitVec 8 :=
  status.reserved ++ BitVec.ofBool status.soundActive ++ BitVec.ofBool status.clearDisplay ++
    BitVec.ofBool status.paused ++ BitVec.ofBool status.running

def union (left right : Status) : Status where
  running := left.running || right.running
  paused := left.paused || right.paused
  clearDisplay := left.clearDisplay || right.clearDisplay
  soundActive := left.soundActive || right.soundActive
  reserved := left.reserved ||| right.reserved

/-- The bits of the left side that are not set on the right. -/
def remove (left right : Status) : Status where
  running := left.running && !right.running
  paused := left.paused && !right.paused
  clearDisplay := left.clearDisplay && !right.clearDisplay
  soundActive := left.soundActive && !right.soundActive
  reserved := left.reserved &&& ~~~right.reserved

def text (status : Status) : String :=
  Text.flagsText [(status.running, "RUNNING"), (status.paused, "PAUSED"),
    (status.clearDisplay, "CLEAR_DISPLAY"), (status.soundActive, "SOUND_ACTIVE")]
    (status.reserved.toNat * 16)

def binaryText (status : Status) : String := Text.binaryLiteral 4 status.bits.toNat

end Status

end Chip8
