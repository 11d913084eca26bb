import Chip8.Registers

/-! # Arithmetic with a flag

The operations of the machine whose lost or borrowed bit goes to the flag register. The result is
written first and the flag after it, so an instruction whose target is the flag register keeps the
flag. The main statements relate result and flag to whole numbers.
-/

namespace Chip8

/-- A byte with the bit that did not fit into it. -/
structure Flagged where
  value : UInt8
  flag : Bool
deriving DecidableEq, Repr

namespace Flagged

/-- The sum of two bytes, flagged on a carry. -/
def add (a b : UInt8) : Flagged := ⟨a + b, decide (255 < a.toNat + b.toNat)⟩

/-- The difference of two bytes, flagged unless something had to be borrowed. -/
def sub (a b : UInt8) : Flagged := ⟨a - b, decide (b ≤ a)⟩

/-- Half of a byte, flagged with the bit that was lost. -/
def half (a : UInt8) : Flagged := ⟨a >>> 1, decide (a % 2 = 1)⟩

/-- Twice a byte, flagged with the bit that was lost. -/
def double (a : UInt8) : Flagged := ⟨a <<< 1, decide (128 ≤ a)⟩

def bit (result : Flagged) : Nat := if result.flag then 1 else 0

theorem add_eq (a b : UInt8) :
    (add a b).value.toNat + 256 * (add a b).bit = a.toNat + b.toNat := by
  have := a.toNat_lt
  have := b.toNat_lt
  simp only [add, bit, decide_eq_true_eq, UInt8.toNat_add]
  split <;> omega

theorem sub_eq (a b : UInt8) :
    (sub a b).value.toNat + b.toNat + 256 * (sub a b).bit = a.toNat + 256 := by
  have := a.toNat_lt
  have := b.toNat_lt
  simp only [sub, bit, decide_eq_true_eq, UInt8.toNat_sub, UInt8.le_iff_toNat_le]
  split <;> omega

theorem half_eq (a : UInt8) : 2 * (half a).value.toNat + (half a).bit = a.toNat := by
  have halved : (a >>> 1).toNat = a.toNat / 2 := by
    simp [UInt8.toNat_shiftRight, Nat.shiftRight_eq_div_pow]
  have odd : a % 2 = 1 ↔ a.toNat % 2 = 1 := by
    rw [← UInt8.toNat_inj]
    simp
  simp only [half, bit, decide_eq_true_eq, halved, odd]
  split <;> omega

theorem double_eq (a : UInt8) :
    (double a).value.toNat + 256 * (double a).bit = 2 * a.toNat := by
  have := a.toNat_lt
  have doubled : (a <<< 1).toNat = 2 * a.toNat % 256 := by
    simp [UInt8.toNat_shiftLeft, Nat.shiftLeft_eq, Nat.mul_comm]
  simp only [double, bit, decide_eq_true_eq, doubled, UInt8.le_iff_toNat_le]
  simp only [UInt8.reduceToNat]
  split <;> omega

end Flagged

/-- Write a result and then its flag. -/
def Registers.setFlagged (registers : Registers) (x : VIndex) (result : Flagged) : Registers :=
  (registers.set x result.value).setFlag result.flag

namespace Registers

end Registers

end Chip8
