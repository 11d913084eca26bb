import Chip8.Host

/-! # Sprites

A sprite is a list of rows of eight pixels, leftmost in the top bit. The points that it covers are
found first and plotted one after the other; the order is row by row from the top and from left to
right. A point beyond an edge is either left out or continued at the opposite edge.
-/

namespace Chip8.Sprite

universe u

variable {η : Type u}

/-- Where a point of the plane falls on the display. -/
def place? (wrap : Bool) (x y : Nat) : Option (Nat × Nat) :=
  if wrap then some (x % displayWidth, y % displayHeight)
  else if x < displayWidth ∧ y < displayHeight then some (x, y)
  else none

/-- The columns in which a row has a pixel. -/
def columns (bits : UInt8) : List Nat :=
  (List.range 8).filter fun column => bits.toBitVec.getMsbD column

/-- The points of the display that a sprite covers, in the order they are plotted. -/
def points (wrap : Bool) (x y : Nat) : List UInt8 → List (Nat × Nat)
  | [] => []
  | bits :: rest =>
    (columns bits).filterMap (fun column => place? wrap (x + column) y) ++
      points wrap x (y + 1) rest

/-- Flip some points in turn, telling whether any of them was lit. -/
def plot [Host η] (host : η) : List (Nat × Nat) → Bool × η
  | [] => (false, host)
  | (x, y) :: rest =>
    let (lit, host) := Host.drawPixel host x y
    let (collision, host) := plot host rest
    (lit || collision, host)

/-- Every plotted point is on the display. -/
theorem mem_points {wrap : Bool} {x y column line : Nat} {rows : List UInt8}
    (covered : (column, line) ∈ points wrap x y rows) :
    column < displayWidth ∧ line < displayHeight := by
  induction rows generalizing y with
  | nil => simp [points] at covered
  | cons bits rest ih =>
    simp only [points, List.mem_append, List.mem_filterMap] at covered
    rcases covered with ⟨offset, _, placed⟩ | later
    · unfold place? at placed
      split at placed
      · cases placed
        exact ⟨Nat.mod_lt _ (by decide), Nat.mod_lt _ (by decide)⟩
      · split at placed
        · cases placed
          assumption
        · contradiction
    · exact ih later

end Chip8.Sprite
