import Chip8.Layout

/-! # Frames

The picture on the display: a rectangle of pixels that are flipped one at a time. Points outside the
rectangle are never lit and flipping them does nothing. The main statement says what a pixel is
after a flip.
-/

namespace Chip8

/-- The pixels, line by line from the top. -/
structure Frame where
  rows : Vector (Vector Bool displayWidth) displayHeight
deriving DecidableEq, Repr

namespace Frame

def blank : Frame := ⟨Vector.replicate displayHeight (Vector.replicate displayWidth false)⟩

def isLit (frame : Frame) (x y : Nat) : Bool :=
  (frame.rows[y]?.bind fun row => row[x]?).getD false

def toggle (frame : Frame) (x y : Nat) : Frame :=
  if inside : x < displayWidth ∧ y < displayHeight then
    ⟨frame.rows.set y (frame.rows[y].set x (!frame.rows[y][x]))⟩
  else
    frame

def pixels (frame : Frame) : List Bool := frame.rows.toList.flatMap Vector.toList

def lit (frame : Frame) : Nat := frame.pixels.count true

def lines (frame : Frame) : List String :=
  frame.rows.toList.map fun row =>
    String.ofList (row.toList.map fun pixel => if pixel then '#' else '.')

def text (frame : Frame) : String := String.join (frame.lines.map (· ++ "\n"))

def summary (frame : Frame) : String := s!"FrameBuffer \x7b lit: {frame.lit} \x7d"

@[simp] theorem isLit_blank (x y : Nat) : blank.isLit x y = false := by
  simp only [isLit, blank, Vector.getElem?_replicate]
  split
  · simp only [Option.bind_some, Vector.getElem?_replicate]
    split <;> rfl
  · rfl

/-- A point outside the display is dark. -/
theorem isLit_of_outside (frame : Frame) {x y : Nat}
    (outside : ¬(x < displayWidth ∧ y < displayHeight)) : frame.isLit x y = false := by
  simp only [isLit]
  by_cases below : y < displayHeight
  · have right : displayWidth ≤ x := by omega
    simp [below, right]
  · simp [Nat.le_of_not_lt below]

/-- A flip changes its own point, if that is on the display, and no other. -/
theorem isLit_toggle (frame : Frame) (x y column line : Nat) :
    (frame.toggle x y).isLit column line =
      if column = x ∧ line = y ∧ x < displayWidth ∧ y < displayHeight then
        !frame.isLit column line
      else frame.isLit column line := by
  unfold toggle
  split
  · rename_i inside
    simp only [isLit, Vector.getElem?_set]
    by_cases sameLine : y = line
    · subst sameLine
      by_cases sameColumn : x = column
      · subst sameColumn
        simp [inside]
      · simp [inside, sameColumn, Ne.symm sameColumn]
    · simp [sameLine, Ne.symm sameLine]
  · rename_i outside
    rw [if_neg]
    intro held
    exact outside held.2.2

end Frame

end Chip8
