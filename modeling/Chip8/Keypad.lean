import Chip8.Layout

/-! # Keypad

Which of the sixteen keys are down. The main statements say what a key's state is after an event,
which decides its own key and no other, and which key a program is given that waits for one.
-/

namespace Chip8

/-- The keys that are down, one bit for each. -/
structure Keypad where
  bits : BitVec keyCount := 0
deriving DecidableEq, Repr

namespace Keypad

/-- A key number that no key has. -/
structure InvalidKey where
  key : UInt8
deriving DecidableEq, Repr

def InvalidKey.message (problem : InvalidKey) : String :=
  s!"invalid key {problem.key}, keys go from 0 to 15"

def released : Keypad := {}

/-- Whether a key is down. A number that no key has is never down. -/
def isDown (keypad : Keypad) (key : UInt8) : Bool := keypad.bits.getLsbD key.toNat

def set (keypad : Keypad) (key : UInt8) (pressed : Bool) : Except InvalidKey Keypad :=
  if key.toNat < keyCount then
    let bit := BitVec.ofNat keyCount 1 <<< key.toNat
    .ok ⟨if pressed then keypad.bits ||| bit else keypad.bits &&& ~~~bit⟩
  else
    .error ⟨key⟩

/-- The keys that are down, lowest first. -/
def down (keypad : Keypad) : List UInt8 :=
  ((List.range keyCount).map Nat.toUInt8).filter keypad.isDown

/-- The lowest key that is down. -/
def first? (keypad : Keypad) : Option UInt8 := keypad.down.head?

@[simp] theorem isDown_released (key : UInt8) : released.isDown key = false := by
  simp [released, isDown]

theorem isDown_of_le {keypad : Keypad} {key : UInt8} (none : keyCount ≤ key.toNat) :
    keypad.isDown key = false := BitVec.getLsbD_of_ge _ _ none

private theorem first?_eq (keypad : Keypad) : keypad.first? =
    ((List.range keyCount).find? fun number => keypad.isDown number.toUInt8).map Nat.toUInt8 := by
  rw [first?, down, List.head?_filter, List.find?_map]
  rfl

theorem first?_eq_none_iff {keypad : Keypad} :
    keypad.first? = none ↔ ∀ key, keypad.isDown key = false := by
  rw [first?_eq, Option.map_eq_none_iff, List.find?_eq_none]
  constructor
  · intro up key
    by_cases valid : key.toNat < keyCount
    · simpa using up key.toNat (List.mem_range.mpr valid)
    · exact isDown_of_le (Nat.le_of_not_lt valid)
  · intro up number _
    simp [up]

private theorem toNat_toUInt8 {number : Nat} (valid : number < keyCount) :
    number.toUInt8.toNat = number :=
  UInt8.toNat_ofNat_of_lt (Nat.lt_trans valid (by decide))

/-- The lowest key is down, and the keys below it are up. -/
theorem first?_eq_some_iff {keypad : Keypad} {key : UInt8} :
    keypad.first? = some key ↔
      keypad.isDown key = true ∧ ∀ other < key, keypad.isDown other = false := by
  rw [first?_eq, Option.map_eq_some_iff]
  constructor
  · rintro ⟨number, found, rfl⟩
    obtain ⟨down, member, lower⟩ := List.find?_range_eq_some.mp found
    refine ⟨down, fun other below => ?_⟩
    rw [UInt8.lt_iff_toNat_lt, toNat_toUInt8 (List.mem_range.mp member)] at below
    simpa using lower other.toNat below
  · rintro ⟨down, lower⟩
    have valid : key.toNat < keyCount := by
      refine Nat.lt_of_not_le fun none => ?_
      rw [isDown_of_le none] at down
      contradiction
    refine ⟨key.toNat, List.find?_range_eq_some.mpr ⟨by simpa using down, ?_, ?_⟩, by simp⟩
    · exact List.mem_range.mpr valid
    · intro number below
      have smaller : number.toUInt8 < key := by
        rw [UInt8.lt_iff_toNat_lt, toNat_toUInt8 (Nat.lt_trans below valid)]
        exact below
      rw [lower _ smaller]
      rfl

theorem set_eq_error_iff {keypad : Keypad} {key : UInt8} {pressed : Bool} {problem : InvalidKey} :
    keypad.set key pressed = .error problem ↔ keyCount ≤ key.toNat ∧ problem = ⟨key⟩ := by
  unfold set
  split <;> simp <;> grind

/-- An event decides its own key and leaves the others. -/
theorem isDown_of_set {keypad changed : Keypad} {key : UInt8} {pressed : Bool}
    (done : keypad.set key pressed = .ok changed) (other : UInt8) :
    changed.isDown other = if other = key then pressed else keypad.isDown other := by
  simp only [set] at done
  split at done
  · rename_i valid
    cases done
    by_cases same : other = key
    · subst same
      cases pressed <;> simp [isDown, valid]
    · have apart : other.toNat ≠ key.toNat := fun equal => same (UInt8.toNat_inj.mp equal)
      have off : (BitVec.ofNat keyCount 1 <<< key.toNat).getLsbD other.toNat = false := by
        simp only [BitVec.getLsbD_shiftLeft, BitVec.getLsbD_one, Bool.and_eq_false_iff,
          decide_eq_false_iff_not, Bool.not_eq_false']
        grind
      cases pressed
      · simp only [isDown, same, if_false, Bool.false_eq_true, BitVec.getLsbD_and,
          BitVec.getLsbD_not, off]
        by_cases small : other.toNat < keyCount
        · simp [small]
        · simp [BitVec.getLsbD_of_ge _ _ (Nat.le_of_not_lt small)]
      · simp [isDown, same, off]
  · contradiction

end Keypad

end Chip8
