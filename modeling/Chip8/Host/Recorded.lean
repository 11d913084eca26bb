import Chip8.Host

/-! # Recorded hosts

A host that passes every call on and keeps a list of the calls. The recording is never looked at by
the host below it, so what the machine does over a recorded host is what it does over the host
itself.
-/

namespace Chip8

universe u

/-- One call of the machine to its host, with the answer where it matters. -/
inductive Call where
  | draw (x y : Nat) (lit : Bool)
  | screen (signal : Signal)
  | poll (paused : Bool)
  | sound (active : Bool)
  | fault (cause : Fault)
deriving DecidableEq, Repr

def Call.text : Call → String
  | .draw x y lit => s!"draw {x},{y} {if lit then 1 else 0}"
  | .screen signal => s!"screen {signal.text}"
  | .poll paused => s!"poll paused={paused}"
  | .sound active => s!"sound {active}"
  | .fault cause => s!"fault {cause.code}: {cause.message}"

/-- A host and the calls it has answered, oldest first. -/
structure Recorded (η : Type u) where
  host : η
  calls : Array Call := #[]

namespace Recorded

variable {η : Type u}

def note (recorded : Recorded η) (host : η) (call : Call) : Recorded η :=
  ⟨host, recorded.calls.push call⟩

instance [Host η] : Host (Recorded η) where
  drawPixel recorded x y :=
    let (lit, host) := Host.drawPixel recorded.host x y
    (lit, recorded.note host (.draw x y lit))
  screen recorded signal := recorded.note (Host.screen recorded.host signal) (.screen signal)
  poll recorded input :=
    let (answer, host) := Host.poll recorded.host input
    (answer, recorded.note host (.poll input.paused))
  sound recorded active := recorded.note (Host.sound recorded.host active) (.sound active)
  reportFault recorded fault := recorded.note (Host.reportFault recorded.host fault) (.fault fault)

@[simp] theorem toList_calls_note (recorded : Recorded η) (host : η) (call : Call) :
    (recorded.note host call).calls.toList = recorded.calls.toList ++ [call] := by
  simp [note]

end Recorded

end Chip8
