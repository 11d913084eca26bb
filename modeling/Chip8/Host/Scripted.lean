import Chip8.Host

/-! # Scripted hosts

A host whose answers to polls are amended from a list prepared in advance, one entry a poll. All
other calls are those of the host below it.
-/

namespace Chip8

universe u

/-- What one poll is made to answer beyond what the host says. -/
structure Amendment where
  key : Option KeyEvent := none
  paused : Option Bool := none
  stop : Bool := false
deriving DecidableEq, Repr

def Amendment.apply (amendment : Amendment) (input : Input) : Input where
  key := amendment.key.or input.key
  paused := amendment.paused.getD input.paused
  stop := amendment.stop || input.stop

/-- A host and the amendments still to be made, next one first. -/
structure Scripted (η : Type u) where
  host : η
  script : List Amendment := []

namespace Scripted

variable {η : Type u}

instance [Host η] : Host (Scripted η) where
  drawPixel scripted x y :=
    let (lit, host) := Host.drawPixel scripted.host x y
    (lit, { scripted with host })
  screen scripted signal := { scripted with host := Host.screen scripted.host signal }
  poll scripted input :=
    let (answer, host) := Host.poll scripted.host input
    match scripted.script with
    | [] => (answer, ⟨host, []⟩)
    | amendment :: rest => (amendment.apply answer, ⟨host, rest⟩)
  sound scripted active := { scripted with host := Host.sound scripted.host active }
  reportFault scripted fault := { scripted with host := Host.reportFault scripted.host fault }

end Scripted

end Chip8
