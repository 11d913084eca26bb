/-! # Dialects

Interpreters of different times read a few instructions differently. A dialect says, for each of
these points, which reading applies; it is chosen when a program is loaded and never changes while
the program runs.
-/

namespace Chip8

/-- The readings that a program expects. -/
structure Dialect where
  /-- The bitwise instructions clear the flag register. -/
  vfReset : Bool := false
  /-- The shifts work on their first register and ignore the second. -/
  shiftVxOnly : Bool := false
  /-- Sprites continue at the opposite edge of the screen. -/
  wrapSprites : Bool := false
  /-- Block stores and loads leave the index after the block. -/
  incrementIndex : Bool := false
deriving DecidableEq, Repr

namespace Dialect

def cosmac : Dialect := { vfReset := true, incrementIndex := true }

def schip : Dialect := { shiftVxOnly := true }

/-- What most interpreters do today. -/
def modern : Dialect := {}

/-- The dialects that have names, in the order they are offered. -/
def presets : List (String × Dialect) := [("cosmac", cosmac), ("schip", schip), ("modern", modern)]

def ofName? (name : String) : Option Dialect := presets.lookup name

/-- The first name of a dialect, if it has one. -/
def name? (dialect : Dialect) : Option String :=
  (presets.find? fun preset => preset.2 == dialect).map Prod.fst

/-- Each reading that differs when either dialect asks for it. -/
def union (left right : Dialect) : Dialect where
  vfReset := left.vfReset || right.vfReset
  shiftVxOnly := left.shiftVxOnly || right.shiftVxOnly
  wrapSprites := left.wrapSprites || right.wrapSprites
  incrementIndex := left.incrementIndex || right.incrementIndex

/-- The points at which a dialect departs from the plain one, by name. -/
def names (dialect : Dialect) : List String :=
  [(dialect.vfReset, "vf-reset"), (dialect.shiftVxOnly, "shift-vx-only"),
    (dialect.wrapSprites, "wrap-sprites"), (dialect.incrementIndex, "increment-index")].filterMap
    fun (on, name) => if on then some name else none

/-- A dialect as a list of names. -/
def text (dialect : Dialect) : String :=
  if dialect.names.isEmpty then "none" else String.intercalate ", " dialect.names

end Dialect

end Chip8
