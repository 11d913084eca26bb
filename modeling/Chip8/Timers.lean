import Chip8.Layout

/-! # Timers

Two counters that go down to zero and stay there. The sound is on while its counter is not zero.
-/

namespace Chip8

structure Timers where
  delay : UInt8 := 0
  sound : UInt8 := 0
deriving DecidableEq, Repr

namespace Timers

/-- One less, or still zero. -/
def countDown (count : UInt8) : UInt8 := if count = 0 then 0 else count - 1

def tick (timers : Timers) : Timers := ⟨countDown timers.delay, countDown timers.sound⟩

/-- Whether the sound is still to be heard. -/
def isAudible (timers : Timers) : Bool := timers.sound != 0

@[simp] theorem toNat_countDown (count : UInt8) : (countDown count).toNat = count.toNat - 1 := by
  unfold countDown
  split
  · simp_all
  · rename_i positive
    have : 1 ≤ count := by
      rw [UInt8.le_iff_toNat_le]
      have : count.toNat ≠ 0 := fun zero => positive (UInt8.toNat_inj.mp (by simpa using zero))
      simp
      omega
    simp [UInt8.toNat_sub_of_le _ _ this]

end Timers

end Chip8
