import Chip8.Proofs.Footprint
import Mathlib.Algebra.GroupWithZero.Nat

/-! # Blocks of registers in memory

A block store and a block load copy the first registers to memory and back, so either of them undoes
the other once the index is back where it was. In the dialects that move the index, blocks that are
stored one after the other lie back to back: `executeAll_stores` and `executeAll_loads` follow a
whole sequence of them, and `block_transfer` is the result. In the other dialects the index stays.
-/

namespace Chip8

universe u

variable {η : Type u}

namespace Memory

/-- Bytes written back to back are written as one range. -/
theorem splice_append (bytes : Vector UInt8 memorySize) (start : Nat) (first second : List UInt8) :
    splice (splice bytes start first) (start + first.length) second =
      splice bytes start (first ++ second) := by
  induction first generalizing bytes start with
  | nil => rfl
  | cons byte rest ih =>
    rw [List.cons_append, splice, splice, List.length_cons, ← ih]
    congr 1
    omega

/-- A range that was written reads as what was written. -/
theorem readRange_splice (bytes : Vector UInt8 memorySize) {start : Nat} {new : List UInt8}
    (within : start + new.length ≤ memorySize) :
    readRange ⟨splice bytes start new⟩ start new.length = .ok new := by
  obtain ⟨found, read, length, same⟩ := exists_readRange ⟨splice bytes start new⟩ within
  rw [read]
  refine congrArg Except.ok (List.ext_getElem? fun offset => ?_)
  by_cases inside : offset < new.length
  · rw [same offset inside, get?, getElem?_splice _ _ _ _ within, if_pos (by omega),
      Nat.add_sub_cancel_left]
  · rw [List.getElem?_eq_none (by omega), List.getElem?_eq_none (by omega)]

/-- To write what a range reads as changes nothing. -/
theorem splice_of_readRange {memory : Memory} {start length : Nat} {bytes : List UInt8}
    (read : memory.readRange start length = .ok bytes) :
    splice memory.bytes start bytes = memory.bytes := by
  have within := within_of_readRange read
  obtain ⟨found, again, sized, same⟩ := memory.exists_readRange within
  rw [read] at again
  cases again
  have kept : (⟨splice memory.bytes start bytes⟩ : Memory) = memory := by
    apply Memory.ext
    intro address
    rw [get?, getElem?_splice _ _ _ _ (by omega)]
    split
    · next inside => rw [same _ (by omega), Nat.add_sub_cancel' inside.1]
    · rfl
  exact congrArg Memory.bytes kept

end Memory

namespace Registers

variable (registers : Registers) {x y : VIndex}

private theorem getElem?_block (inside : y ≤ x) :
    (registers.block x)[y.val]? = some (registers.get y) := by
  have below : y.val < x.val + 1 := Nat.lt_succ_of_le inside
  rw [block, List.getElem?_take_of_lt below, Vector.getElem?_toList]
  exact Vector.getElem?_eq_getElem y.isLt

private theorem get_setBlock_of_le {bytes : List UInt8} (length : bytes.length = x.val + 1)
    (inside : y ≤ x) : some ((registers.setBlock bytes).get y) = bytes[y.val]? := by
  have below : y.val < bytes.length := length ▸ Nat.lt_succ_of_le inside
  rw [get_setBlock, List.getElem?_eq_getElem below, Option.getD_some]

private theorem v_ext {left right : Registers} (same : ∀ y, left.get y = right.get y) :
    left.v = right.v :=
  Vector.ext fun place inside => same ⟨place, inside⟩

/-- To load what a block already holds changes nothing. -/
theorem v_setBlock_block : (registers.setBlock (registers.block x)).v = registers.v := by
  apply v_ext
  intro y
  by_cases inside : y ≤ x
  · have loaded := registers.get_setBlock_of_le (registers.length_block x) inside
    rw [getElem?_block _ inside] at loaded
    exact Option.some.inj loaded
  · exact registers.get_setBlock_of_lt (registers.length_block x) inside

/-- A block reads as what was loaded into it. -/
theorem block_setBlock {bytes : List UInt8} (length : bytes.length = x.val + 1) :
    (registers.setBlock bytes).block x = bytes := by
  apply List.ext_getElem?
  intro place
  by_cases inside : place < x.val + 1
  · have small : place < 16 := Nat.lt_of_lt_of_le inside x.isLt
    have within : (⟨place, small⟩ : VIndex) ≤ x := Nat.le_of_lt_succ inside
    have held := (registers.setBlock bytes).getElem?_block within
    rw [← registers.get_setBlock_of_le length within]
    exact held
  · rw [List.getElem?_eq_none (by rw [length_block]; omega), List.getElem?_eq_none (by omega)]

end Registers

/-- How many bytes some blocks take. -/
def extent (blocks : List VIndex) : Nat := (blocks.map fun x => x.val + 1).sum

@[simp] theorem extent_cons (x : VIndex) (rest : List VIndex) :
    extent (x :: rest) = x.val + 1 + extent rest := rfl

private theorem extent_append (first second : List VIndex) :
    extent (first ++ second) = extent first + extent second := by
  rw [extent, List.map_append, List.sum_append]
  rfl

private theorem length_flatMap_block (registers : Registers) (blocks : List VIndex) :
    (blocks.flatMap registers.block).length = extent blocks := by
  rw [List.length_flatMap, extent]
  simp only [Registers.length_block]

/-- An index moved by a number of bytes is moved by them as a number, too, inside memory. -/
theorem toNat_add_ofNat {start : Address} {distance : Nat}
    (within : start.toNat + distance ≤ memorySize) :
    (start + UInt16.ofNat distance).toNat = start.toNat + distance := by
  simp only [memorySize] at within
  rw [UInt16.toNat_add, UInt16.toNat_ofNat']
  omega

namespace Machine

def withIndex (machine : Machine) (i : Address) : Machine :=
  machine.withRegisters { machine.registers with i }

/-- The index behind a block that was stored or loaded. -/
def indexAfter (machine : Machine) (x : VIndex) : Address :=
  if machine.dialect.incrementIndex then machine.registers.i + UInt16.ofNat (x.val + 1)
  else machine.registers.i

/-- The machine with bytes written from its index on. -/
def storing (machine : Machine) (bytes : List UInt8) : Machine :=
  { machine with memory := ⟨Memory.splice machine.memory.bytes machine.registers.i.toNat bytes⟩ }

/-- The machine with bytes in its first registers, and its index at another address. -/
def loading (machine : Machine) (bytes : List UInt8) (i : Address) : Machine :=
  machine.withRegisters { machine.registers.setBlock bytes with i }

private theorem withIndex_i (machine : Machine) (i : Address) :
    (machine.withIndex i).registers.i = i := rfl

/-- The memory behind a block that is stored at another index. -/
theorem memory_storing_withIndex (machine : Machine) (i : Address) (x : VIndex) :
    let moved := machine.withIndex i
    (moved.storing (moved.registers.block x)).memory =
      ⟨Memory.splice machine.memory.bytes i.toNat (machine.registers.block x)⟩ := rfl

private theorem memory_loading (machine : Machine) (bytes : List UInt8) (i : Address) :
    (machine.loading bytes i).memory = machine.memory := by
  simp only [loading, withRegisters]

private theorem block_loading {machine : Machine} {bytes : List UInt8} {x : VIndex}
    (length : bytes.length = x.val + 1) (i : Address) :
    (machine.loading bytes i).registers.block x = bytes :=
  machine.registers.block_setBlock length

/-- Execute instructions one behind the other. One that faults or leads elsewhere is the last. -/
def executeAll [Host η] (machine : Machine) (host : η) : List Instruction → Effect η
  | [] => ⟨machine, host, .ok .next⟩
  | instruction :: rest =>
    let effect := machine.execute host instruction
    match effect.outcome with
    | .ok .next => effect.machine.executeAll effect.host rest
    | _ => effect

variable [Host η] {machine after : Machine} {host later : η} {x : VIndex}

private theorem executeAll_cons {instruction : Instruction}
    (done : machine.execute host instruction = ⟨after, later, .ok .next⟩)
    (rest : List Instruction) :
    machine.executeAll host (instruction :: rest) = after.executeAll later rest := by
  rw [executeAll, done]

/-- A sequence can be cut behind instructions that all go on to the next. -/
theorem executeAll_append {first : List Instruction}
    (done : machine.executeAll host first = ⟨after, later, .ok .next⟩)
    (second : List Instruction) :
    machine.executeAll host (first ++ second) = after.executeAll later second := by
  induction first generalizing machine host with
  | nil =>
    cases done
    rfl
  | cons instruction rest ih =>
    simp only [executeAll] at done
    simp only [List.cons_append, executeAll]
    split at done
    · exact ih done
    · next other =>
      rw [done] at other
      exact absurd rfl other

/-- A block that stays in memory is stored. -/
theorem execute_store (within : machine.registers.i.toNat + (x.val + 1) ≤ memorySize) :
    machine.execute host (.store x) =
      ⟨(machine.storing (machine.registers.block x)).withIndex (machine.indexAfter x), host,
        .ok .next⟩ := by
  rw [← machine.registers.length_block x] at within
  simp only [execute, writeAtIndex, Memory.writeRange_of_within _ within, advanceIndex_eq]
  rfl

/-- A block that stays in memory is loaded. -/
theorem execute_load {bytes : List UInt8}
    (read : machine.memory.readRange machine.registers.i.toNat (x.val + 1) = .ok bytes) :
    machine.execute host (.load x) =
      ⟨machine.loading bytes (machine.indexAfter x), host, .ok .next⟩ := by
  simp only [execute, read, advanceIndex_eq, withRegisters, Registers.setBlock_i, loading,
    indexAfter]

/-- Bytes that are written behind others are written with them. -/
theorem storing_storing {i : Address} {bytes : List UInt8}
    (behind : i.toNat = machine.registers.i.toNat + bytes.length) (more : List UInt8) :
    ((machine.storing bytes).withIndex i).storing more =
      (machine.storing (bytes ++ more)).withIndex i := by
  have spliced := Memory.splice_append machine.memory.bytes machine.registers.i.toNat bytes more
  rw [← behind] at spliced
  exact congrArg (fun bytes => { machine.withIndex i with memory := ⟨bytes⟩ }) spliced

/-- What was stored is loaded again from the same index. -/
theorem load_of_stored (within : machine.registers.i.toNat + (x.val + 1) ≤ memorySize) :
    let stored := machine.execute host (.store x)
    let loaded := (stored.machine.withIndex machine.registers.i).execute stored.host (.load x)
    stored.outcome = .ok .next ∧ loaded.outcome = .ok .next ∧
      loaded.machine.registers.v = machine.registers.v := by
  intro stored loaded
  have first : stored = _ := execute_store within
  rw [← machine.registers.length_block x] at within
  have read := Memory.readRange_splice machine.memory.bytes within
  rw [Registers.length_block] at read
  have second : loaded = _ := execute_load (by rw [first]; exact read)
  refine ⟨by rw [first], by rw [second], ?_⟩
  rw [second, first]
  exact machine.registers.v_setBlock_block

/-- What was loaded is stored again at the same index. -/
theorem store_of_loaded (within : machine.registers.i.toNat + (x.val + 1) ≤ memorySize) :
    let loaded := machine.execute host (.load x)
    let stored := (loaded.machine.withIndex machine.registers.i).execute loaded.host (.store x)
    loaded.outcome = .ok .next ∧ stored.outcome = .ok .next ∧
      stored.machine.memory = machine.memory := by
  intro loaded stored
  obtain ⟨bytes, read, length, -⟩ := machine.memory.exists_readRange within
  have first : loaded = _ := execute_load read
  have second : stored = _ := execute_store (by rw [withIndex_i]; exact within)
  refine ⟨by rw [first], by rw [second], ?_⟩
  have written := memory_storing_withIndex loaded.machine machine.registers.i x
  have block : loaded.machine.registers.block x = bytes := by
    rw [first]
    exact block_loading length _
  have memory : loaded.machine.memory = machine.memory := by
    rw [first]
    exact machine.memory_loading bytes _
  rw [block, memory, Memory.splice_of_readRange read] at written
  rw [second]
  exact written

section Sequences

variable (advances : machine.dialect.incrementIndex = true) {blocks : List VIndex}

include advances

/-- A dialect that moves the index moves it behind a block that stays in memory. -/
theorem toNat_indexAfter (within : machine.registers.i.toNat + (x.val + 1) ≤ memorySize) :
    (machine.indexAfter x).toNat = machine.registers.i.toNat + (x.val + 1) := by
  rw [indexAfter, if_pos advances]
  exact toNat_add_ofNat within

/-- Blocks that are stored in turn lie back to back. -/
theorem executeAll_stores (host : η)
    (within : machine.registers.i.toNat + extent blocks ≤ memorySize) :
    ∃ i, machine.executeAll host (blocks.map .store) =
        ⟨(machine.storing (blocks.flatMap machine.registers.block)).withIndex i, host,
          .ok .next⟩ ∧
      i.toNat = machine.registers.i.toNat + extent blocks := by
  induction blocks generalizing machine with
  | nil => exact ⟨machine.registers.i, rfl, rfl⟩
  | cons x rest ih =>
    rw [extent_cons, ← Nat.add_assoc] at within ⊢
    have moved := toNat_indexAfter advances (x := x) (by omega)
    have first : machine.execute host (.store x) = _ := execute_store (by omega)
    generalize machine.indexAfter x = i at moved first
    rw [← moved] at within ⊢
    let after := (machine.storing (machine.registers.block x)).withIndex i
    have still : after.dialect.incrementIndex = true := advances
    obtain ⟨final, stored, index⟩ := ih still within
    refine ⟨final, ?_, index⟩
    rw [← machine.registers.length_block x] at moved
    rw [List.map_cons, executeAll_cons first, stored, storing_storing moved, List.flatMap_cons]
    rfl

/-- A block that is loaded fills the registers that it reaches. -/
theorem exists_load (host : η)
    (within : machine.registers.i.toNat + (x.val + 1) ≤ memorySize) :
    ∃ registers,
      machine.execute host (.load x) = ⟨machine.withRegisters registers, host, .ok .next⟩ ∧
      registers.i.toNat = machine.registers.i.toNat + (x.val + 1) ∧
      (∀ y ≤ x,
        some (registers.get y) = machine.memory.get? (machine.registers.i.toNat + y.val)) ∧
      ∀ y, x < y → registers.get y = machine.registers.get y := by
  obtain ⟨bytes, read, length, same⟩ := machine.memory.exists_readRange within
  refine ⟨{ machine.registers.setBlock bytes with i := machine.indexAfter x }, execute_load read,
    toNat_indexAfter advances within, fun y inside => ?_, fun y beyond => ?_⟩
  · rw [← same y.val (Nat.lt_succ_of_le inside)]
    exact machine.registers.get_setBlock_of_le length inside
  · exact machine.registers.get_setBlock_of_lt length (Nat.not_le_of_lt beyond)

/-- Blocks that are loaded in turn leave the registers alone that none of them reaches. -/
theorem executeAll_loads (host : η)
    (within : machine.registers.i.toNat + extent blocks ≤ memorySize) :
    ∃ registers,
      machine.executeAll host (blocks.map .load) =
        ⟨machine.withRegisters registers, host, .ok .next⟩ ∧
      registers.i.toNat = machine.registers.i.toNat + extent blocks ∧
      ∀ y, (∀ x ∈ blocks, x < y) → registers.get y = machine.registers.get y := by
  induction blocks generalizing machine with
  | nil => exact ⟨machine.registers, rfl, rfl, fun _ _ => rfl⟩
  | cons x rest ih =>
    rw [extent_cons, ← Nat.add_assoc] at within ⊢
    obtain ⟨middle, first, moved, -, kept⟩ := exists_load advances host (x := x) (by omega)
    rw [← moved] at within ⊢
    have still : (machine.withRegisters middle).dialect.incrementIndex = true := advances
    obtain ⟨registers, loaded, index, others⟩ := ih still within
    refine ⟨registers, ?_, index, fun y beyond => ?_⟩
    · rw [List.map_cons, executeAll_cons first, loaded]
      rfl
    · obtain ⟨past, further⟩ := List.forall_mem_cons.mp beyond
      exact (others y further).trans (kept y past)

/-- A register holds its byte of the last block that reaches it. -/
theorem get_of_loads (host : η) {earlier later : List VIndex} {x y : VIndex}
    (within : machine.registers.i.toNat + extent (earlier ++ x :: later) ≤ memorySize)
    (reached : y ≤ x) (last : ∀ z ∈ later, z < y) :
    some ((machine.executeAll host ((earlier ++ x :: later).map .load)).machine.registers.get y) =
      machine.memory.get? (machine.registers.i.toNat + extent earlier + y.val) := by
  rw [extent_append, extent_cons, ← Nat.add_assoc, ← Nat.add_assoc] at within
  have sooner : machine.registers.i.toNat + extent earlier ≤ memorySize := by omega
  obtain ⟨first, before, reachedIndex, -⟩ := executeAll_loads advances host sooner
  rw [← reachedIndex] at within ⊢
  have still : (machine.withRegisters first).dialect.incrementIndex = true := advances
  obtain ⟨second, here, moved, filled, -⟩ :=
    exists_load still host (Nat.le_of_add_right_le within)
  have further : (machine.withRegisters second).dialect.incrementIndex = true := advances
  have rest : second.i.toNat + extent later ≤ memorySize :=
    Nat.le_trans (Nat.add_le_add_right (Nat.le_of_eq moved) _) within
  obtain ⟨third, after, -, kept⟩ := executeAll_loads further host rest
  rw [List.map_append, executeAll_append before, List.map_cons, executeAll_cons here]
  change some ((executeAll (machine.withRegisters second) host _).machine.registers.get y) = _
  rw [after]
  exact (congrArg some (kept y last)).trans (filled y reached)

end Sequences

/-- The index stays where it is in a dialect that does not move it, also if a block is refused. -/
theorem executeAll_index (stays : machine.dialect.incrementIndex = false)
    {instructions : List Instruction}
    (blocks : ∀ instruction ∈ instructions,
      ∃ x, instruction = .store x ∨ instruction = .load x) :
    (machine.executeAll host instructions).machine.registers.i = machine.registers.i := by
  induction instructions generalizing machine host with
  | nil => rfl
  | cons instruction rest ih =>
    obtain ⟨block, others⟩ := List.forall_mem_cons.mp blocks
    have fixed : ¬instruction.MovesIndex machine.dialect := by
      obtain ⟨x, rfl | rfl⟩ := block
      · exact Bool.eq_false_iff.mp stays
      · exact Bool.eq_false_iff.mp stays
    have kept := (machine.execute_spares host instruction).index fixed
    have dialect := (machine.execute_untouched host instruction).dialect
    simp only [executeAll]
    split
    · exact (ih (dialect ▸ stays) others).trans kept
    · exact kept

/-- A block that is stored and loaded from the same index leaves the general registers as they were,
and one that is loaded and stored at the same index leaves memory as it was. In a dialect that moves
the index, blocks that are stored in turn fill the range from the index on, back to back, and move
the index to its end; loading blocks in turn moves the index alike, and a register then holds its
byte of the last block that reaches it. In the other dialects blocks never move the index. -/
theorem block_transfer (machine : Machine) (host : η) :
    (∀ x : VIndex, machine.registers.i.toNat + (x.val + 1) ≤ memorySize →
      (let stored := machine.execute host (.store x)
        let loaded := (stored.machine.withIndex machine.registers.i).execute stored.host (.load x)
        stored.outcome = .ok .next ∧ loaded.outcome = .ok .next ∧
          loaded.machine.registers.v = machine.registers.v) ∧
      (let loaded := machine.execute host (.load x)
        let stored := (loaded.machine.withIndex machine.registers.i).execute loaded.host (.store x)
        loaded.outcome = .ok .next ∧ stored.outcome = .ok .next ∧
          stored.machine.memory = machine.memory)) ∧
    (machine.dialect.incrementIndex = true → ∀ blocks : List VIndex,
      machine.registers.i.toNat + extent blocks ≤ memorySize →
      (let stored := machine.executeAll host (blocks.map .store)
        let start := machine.registers.i.toNat
        stored.outcome = .ok .next ∧
        stored.machine = { machine.withIndex stored.machine.registers.i with
          memory := stored.machine.memory } ∧
        stored.machine.registers.i.toNat = start + extent blocks ∧
        ∀ address, stored.machine.memory.get? address =
          if start ≤ address ∧ address < start + extent blocks then
            (blocks.flatMap machine.registers.block)[address - start]?
          else machine.memory.get? address) ∧
      (let loaded := machine.executeAll host (blocks.map .load)
        let start := machine.registers.i.toNat
        loaded.outcome = .ok .next ∧
        loaded.machine = machine.withRegisters loaded.machine.registers ∧
        loaded.machine.registers.i.toNat = start + extent blocks ∧
        (∀ earlier x later y, blocks = earlier ++ x :: later → y ≤ x → (∀ z ∈ later, z < y) →
          some (loaded.machine.registers.get y) =
            machine.memory.get? (start + extent earlier + y.val)) ∧
        ∀ y, (∀ x ∈ blocks, x < y) →
          loaded.machine.registers.get y = machine.registers.get y)) ∧
    (machine.dialect.incrementIndex = false → ∀ instructions : List Instruction,
      (∀ instruction ∈ instructions, ∃ x, instruction = .store x ∨ instruction = .load x) →
      (machine.executeAll host instructions).machine.registers.i = machine.registers.i) := by
  refine ⟨fun x within => ⟨load_of_stored within, store_of_loaded within⟩,
    fun advances blocks within => ⟨?_, ?_⟩, fun stays _ blocks => executeAll_index stays blocks⟩
  · obtain ⟨i, stored, index⟩ := executeAll_stores advances host within
    rw [stored]
    refine ⟨rfl, rfl, index, fun address => ?_⟩
    rw [← length_flatMap_block machine.registers blocks] at within ⊢
    exact Memory.getElem?_splice _ _ _ _ within
  · obtain ⟨registers, loaded, index, kept⟩ := executeAll_loads advances host within
    refine ⟨by rw [loaded], by rw [loaded]; rfl, by rw [loaded]; exact index, ?_, ?_⟩
    · rintro earlier x later y rfl reached last
      exact get_of_loads advances host within reached last
    · intro y beyond
      rw [loaded]
      exact kept y beyond

end Machine

end Chip8
