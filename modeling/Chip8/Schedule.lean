import Chip8.Layout

/-! # Cadences and the schedule

A millisecond counter of thirty-two bits says when each activity is due. A cadence compares the time
that passed since it last fired, so it keeps working when the counter wraps around, and it never
catches up on periods that were missed.
-/

namespace Chip8

/-- A periodic activity: its period and when it last fired. -/
structure Cadence where
  period : UInt32
  lastFired : UInt32 := 0
deriving DecidableEq, Repr

namespace Cadence

/-- The cadence of a frequency in a second of a thousand milliseconds, rounded down. -/
def ofFrequency (frequency : Nat) : Cadence := { period := UInt32.ofNat (1000 / frequency) }

/-- Whether a whole period has passed. -/
def isDue (cadence : Cadence) (now : UInt32) : Bool :=
  decide (cadence.period ≤ now - cadence.lastFired)

def fire (cadence : Cadence) (now : UInt32) : Bool × Cadence :=
  if cadence.isDue now then (true, { cadence with lastFired := now }) else (false, cadence)

/-- As if it had last fired at time zero. -/
def reset (cadence : Cadence) : Cadence := { cadence with lastFired := 0 }

@[simp] theorem fire_fst (cadence : Cadence) (now : UInt32) :
    (cadence.fire now).1 = cadence.isDue now := by
  unfold fire
  split <;> simp_all

@[simp] theorem fire_period (cadence : Cadence) (now : UInt32) :
    (cadence.fire now).2.period = cadence.period := by
  unfold fire
  split <;> rfl

end Cadence

structure Schedule where
  cpu : Cadence
  timers : Cadence
  input : Cadence
deriving DecidableEq, Repr

namespace Schedule

def initial : Schedule where
  cpu := .ofFrequency cpuFrequency
  timers := .ofFrequency timerFrequency
  input := .ofFrequency inputFrequency

def reset (schedule : Schedule) : Schedule where
  cpu := schedule.cpu.reset
  timers := schedule.timers.reset
  input := schedule.input.reset

end Schedule

end Chip8
