import Chip8.Layout
import Chip8.Text.Digits
import Chip8.Text.LowerCase

/-! # Registers and the call stack

Sixteen byte registers, the index register, the program counter and the return addresses. Only the
first `sp` stack slots are occupied; the others keep whatever was last written to them. `VF` is the
flag register of the arithmetic instructions and an ordinary register otherwise.
-/

namespace Chip8

/-- The number of a general register. -/
abbrev VIndex := Fin 16

structure Registers where
  v : Vector UInt8 16
  i : Address
  pc : Address
  stack : Vector Address stackDepth
  sp : UInt8
deriving DecidableEq, Repr

namespace Registers

/-- All registers zero, the program counter at the start of programs, an empty call stack. -/
def initial : Registers where
  v := Vector.replicate 16 0
  i := 0
  pc := programStart.toUInt16
  stack := Vector.replicate stackDepth 0
  sp := 0

/-- The register that an indirect jump adds to its target. -/
abbrev offsetIndex : VIndex := ⟨0, by decide⟩

abbrev flagIndex : VIndex := 15

def get (registers : Registers) (x : VIndex) : UInt8 := registers.v[x]

def set (registers : Registers) (x : VIndex) (value : UInt8) : Registers :=
  { registers with v := registers.v.set x value }

/-- Make the flag register one or zero. -/
def setFlag (registers : Registers) (flag : Bool) : Registers :=
  registers.set flagIndex (if flag then 1 else 0)

/-- The return addresses in use, oldest first. -/
def callStack (registers : Registers) : List Address :=
  registers.stack.toList.take registers.sp.toNat

/-- Enter a subroutine: the return address takes the first free slot, if there is one. -/
def push? (registers : Registers) (address : Address) : Option Registers :=
  if free : registers.sp.toNat < stackDepth then
    some { registers with
      stack := registers.stack.set registers.sp.toNat address
      sp := registers.sp + 1 }
  else
    none

/-- Leave a subroutine: the newest return address, whose slot becomes free. -/
def pop? (registers : Registers) : Option (Address × Registers) :=
  if registers.sp = 0 then
    none
  else
    let sp := registers.sp - 1
    some (registers.stack[sp.toNat]?.getD 0, { registers with sp })

/-- The general registers from `V0` through `x`. -/
def block (registers : Registers) (x : VIndex) : List UInt8 :=
  registers.v.toList.take (x.val + 1)

/-- Replace the first general registers by the given bytes. -/
def setBlock (registers : Registers) (bytes : List UInt8) : Registers :=
  { registers with v := Vector.ofFn fun x => bytes[x.val]?.getD registers.v[x] }

@[simp] theorem get_set (registers : Registers) (x y : VIndex) (value : UInt8) :
    (registers.set x value).get y = if x = y then value else registers.get y := by
  simp only [get, set, Fin.getElem_fin, Vector.getElem_set, Fin.ext_iff]

@[simp] theorem setFlag_i (registers : Registers) (flag : Bool) :
    (registers.setFlag flag).i = registers.i := rfl

/-- Only the flag that was written last is seen. -/
@[simp] theorem setFlag_setFlag (registers : Registers) (first second : Bool) :
    (registers.setFlag first).setFlag second = registers.setFlag second := by
  simp only [setFlag, set, Vector.set_set]

@[simp] theorem setBlock_i (registers : Registers) (bytes : List UInt8) :
    (registers.setBlock bytes).i = registers.i := by simp only [setBlock]

@[simp] theorem setBlock_stack (registers : Registers) (bytes : List UInt8) :
    (registers.setBlock bytes).stack = registers.stack := by simp only [setBlock]

@[simp] theorem setBlock_sp (registers : Registers) (bytes : List UInt8) :
    (registers.setBlock bytes).sp = registers.sp := by simp only [setBlock]

@[simp] theorem get_setBlock (registers : Registers) (bytes : List UInt8) (x : VIndex) :
    (registers.setBlock bytes).get x = bytes[x.val]?.getD (registers.get x) := by
  simp [get, setBlock]

theorem push?_eq_none_iff {registers : Registers} {address : Address} :
    registers.push? address = none ↔ stackDepth ≤ registers.sp.toNat := by
  simp [push?]

theorem pop?_eq_none_iff {registers : Registers} : registers.pop? = none ↔ registers.sp = 0 := by
  simp [pop?]

/-- As many return addresses are in use as the stack pointer says. -/
theorem length_callStack {registers : Registers} (depth : registers.sp.toNat ≤ stackDepth) :
    registers.callStack.length = registers.sp.toNat := by
  rw [callStack, List.length_take, Vector.length_toList, Nat.min_eq_left depth]

/-- Entering a subroutine changes nothing but the stack. -/
theorem eq_of_push? {registers pushed : Registers} {address : Address}
    (done : registers.push? address = some pushed) :
    pushed = { registers with stack := pushed.stack, sp := pushed.sp } ∧
      pushed.sp.toNat = registers.sp.toNat + 1 ∧ registers.sp.toNat < stackDepth := by
  simp only [push?] at done
  split at done
  · rename_i free
    cases done
    refine ⟨rfl, ?_, free⟩
    rw [UInt8.toNat_add]
    simp only [stackDepth] at free
    simp
    omega
  · contradiction

/-- Entering a subroutine appends its return address. -/
theorem callStack_of_push? {registers pushed : Registers} {address : Address}
    (done : registers.push? address = some pushed) :
    pushed.callStack = registers.callStack ++ [address] := by
  obtain ⟨-, next, free⟩ := eq_of_push? done
  have stack : pushed.stack = registers.stack.set registers.sp.toNat address := by
    rw [push?, dif_pos free] at done
    cases done
    rfl
  simp only [callStack, next, stack, Vector.toList_set]
  rw [List.take_succ_eq_append_getElem (by simpa using free)]
  simp [List.take_set_of_le]

/-- Leaving a subroutine frees one slot and changes nothing else. -/
theorem eq_of_pop? {registers popped : Registers} {address : Address}
    (done : registers.pop? = some (address, popped)) :
    popped = { registers with sp := popped.sp } ∧
      popped.sp.toNat + 1 = registers.sp.toNat ∧
      address = registers.stack[popped.sp.toNat]?.getD 0 := by
  simp only [pop?] at done
  split at done
  · contradiction
  · rename_i occupied
    cases done
    refine ⟨rfl, ?_, rfl⟩
    have positive : registers.sp.toNat ≠ 0 :=
      fun zero => occupied (UInt8.toNat_inj.mp (by simpa using zero))
    rw [UInt8.toNat_sub_of_le _ _ (by rw [UInt8.le_iff_toNat_le]; simp; omega)]
    simp
    omega

/-- Leaving a subroutine takes off its return address. -/
theorem callStack_of_pop? {registers popped : Registers} {address : Address}
    (depth : registers.sp.toNat ≤ stackDepth)
    (done : registers.pop? = some (address, popped)) :
    registers.callStack = popped.callStack ++ [address] := by
  obtain ⟨same, next, rfl⟩ := eq_of_pop? done
  have stack : popped.stack = registers.stack := by rw [same]
  have inside : popped.sp.toNat < registers.stack.toList.length := by simp; omega
  simp only [callStack, stack, ← next]
  rw [List.take_succ_eq_append_getElem inside]
  simp [Vector.getElem?_eq_getElem (show popped.sp.toNat < stackDepth by omega)]

end Registers

inductive RegisterName where
  | v (x : VIndex)
  | i
  | pc
  | sp
deriving DecidableEq, Repr

namespace RegisterName

/-- The name as it is shown: the digit of a general register is in upper case. -/
def text : RegisterName → String
  | .v x => String.ofList ['v', Text.upperHexDigit x.val]
  | .i => "i"
  | .pc => "pc"
  | .sp => "sp"

/-- The register with a name in lower case. What stands behind the letter of a general register is
read as a number, and only one byte may stand there. -/
def ofLowercase? (name : List Char) : Option RegisterName :=
  match name with
  | ['i'] => some .i
  | ['p', 'c'] => some .pc
  | ['s', 'p'] => some .sp
  | 'v' :: digits =>
    match Text.byteOfHex? digits with
    | some number =>
      if (String.ofList digits).utf8ByteSize = 1 then some (.v (Fin.ofNat 16 number.toNat))
      else none
    | none => none
  | _ => none

/-- The register with a name, whatever the case of its letters. -/
def ofText? (text : String) : Option RegisterName := ofLowercase? (Text.lowercase text.toList)

/-- The complaint about a text that names no register. -/
def unknownMessage : String := "could not parse register"

/-- Every register: the general ones in order, then the others. -/
def all : List RegisterName := (List.finRange 16).map .v ++ [.i, .pc, .sp]

end RegisterName

namespace Registers

/-- A value that a register cannot hold. -/
structure OutOfRange where
  register : RegisterName
  value : UInt16
deriving DecidableEq, Repr

def OutOfRange.message (problem : OutOfRange) : String :=
  s!"value {Text.hexLiteral 1 problem.value.toNat} does not fit in register {problem.register.text}"

def getNamed (registers : Registers) : RegisterName → Word
  | .v x => (registers.get x).toUInt16
  | .i => registers.i
  | .pc => registers.pc
  | .sp => registers.sp.toUInt16

def setNamed (registers : Registers) (name : RegisterName) (value : Word) :
    Except OutOfRange Registers :=
  match name with
  | .v x =>
    if value.toNat < 256 then .ok (registers.set x value.toUInt8) else .error ⟨name, value⟩
  | .i => .ok { registers with i := value }
  | .pc => .ok { registers with pc := value }
  | .sp =>
    if value.toNat ≤ stackDepth then .ok { registers with sp := value.toUInt8 }
    else .error ⟨name, value⟩

def text (registers : Registers) : String :=
  let general := (List.finRange 16).map fun x =>
    s!"{(RegisterName.v x).text} = {Text.hexLiteral 2 (registers.get x).toNat}"
  let others := [s!"i = {Text.addressText registers.i.toNat}",
    s!"pc = {Text.addressText registers.pc.toNat}", s!"sp = {registers.sp}"]
  String.intercalate " | " (general ++ others)

end Registers

end Chip8
