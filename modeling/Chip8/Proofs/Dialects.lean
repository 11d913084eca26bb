import Chip8.Host.Recorded
import Chip8.Proofs.History
import Mathlib.Data.List.Basic

/-! # Where dialects matter

A dialect is consulted by few instructions. `Contested` lists when two dialects may read one
differently: a bitwise instruction, a shift of another register, a sprite that may cross an edge, a
block store or load. `steps_agree` says that nothing else tells them apart: machines that differ in
their dialects alone stay so, with the same calls to the host and the same faults, as long as no
contested instruction is completed.
-/

namespace Chip8

universe u

variable {η : Type u}

namespace Sprite

/-- A point on the display falls on itself, whether sprites go on at the opposite edge or not. -/
theorem place?_of_inside (wrap : Bool) {x y : Nat} (across : x < displayWidth)
    (down : y < displayHeight) : place? wrap x y = some (x, y) := by
  cases wrap
  · simp only [place?, Bool.false_eq_true, if_false, across, down, and_self, if_true]
  · simp only [place?, if_true, Nat.mod_eq_of_lt across, Nat.mod_eq_of_lt down]

/-- A sprite whose box lies on the display covers the same points in any dialect. -/
theorem points_of_inside (one other : Bool) {x y : Nat} {rows : List UInt8}
    (across : x + 7 < displayWidth) (down : y + rows.length ≤ displayHeight) :
    points one x y rows = points other x y rows := by
  induction rows generalizing y with
  | nil => rfl
  | cons bits rest ih =>
    rw [List.length_cons] at down
    have later : points one x (y + 1) rest = points other x (y + 1) rest := ih (by omega)
    have here : (columns bits).filterMap (fun column => place? one (x + column) y) =
        (columns bits).filterMap (fun column => place? other (x + column) y) := by
      refine List.filterMap_congr fun column member => ?_
      have inRow : column < 8 := List.mem_range.mp (List.mem_filter.mp member).1
      have inside : x + column < displayWidth := by omega
      rw [place?_of_inside one inside (by omega), place?_of_inside other inside (by omega)]
    rw [points, points, here, later]

end Sprite

/-- Two dialects may read an instruction differently that meets some registers. -/
def Instruction.Contested (registers : Registers) (one other : Dialect) : Instruction → Prop
  | .bitOr _ _ | .bitAnd _ _ | .bitXor _ _ => one.vfReset ≠ other.vfReset
  | .shiftRight x y | .shiftLeft x y => x ≠ y ∧ one.shiftVxOnly ≠ other.shiftVxOnly
  | .draw x y rows =>
    ¬((registers.get x).toNat + 7 < 64 ∧ (registers.get y).toNat + rows.val ≤ 32) ∧
      one.wrapSprites ≠ other.wrapSprites
  | .store _ | .load _ => one.incrementIndex ≠ other.incrementIndex
  | _ => False

namespace Machine

def withDialect (machine : Machine) (dialect : Dialect) : Machine := { machine with dialect }

variable {machine : Machine} {dialect : Dialect}

private theorem setBitwise_withDialect (x : VIndex) (value : UInt8)
    (agreed : ¬machine.dialect.vfReset ≠ dialect.vfReset) :
    (machine.withDialect dialect).setBitwise x value =
      (machine.setBitwise x value).withDialect dialect := by
  have same : machine.dialect.vfReset = dialect.vfReset := Decidable.not_not.mp agreed
  simp only [setBitwise, withDialect, withRegisters, same]
  rfl

private theorem advanceIndex_withDialect (machine : Machine) (x : VIndex)
    (agreed : ¬machine.dialect.incrementIndex ≠ dialect.incrementIndex) :
    (machine.withDialect dialect).advanceIndex x =
      (machine.advanceIndex x).withDialect dialect := by
  have same : machine.dialect.incrementIndex = dialect.incrementIndex :=
    Decidable.not_not.mp agreed
  simp only [advanceIndex_eq, withDialect, withRegisters, same]

private theorem shiftSource_withDialect (x y : VIndex)
    (agreed : ¬(x ≠ y ∧ machine.dialect.shiftVxOnly ≠ dialect.shiftVxOnly)) :
    (machine.withDialect dialect).shiftSource x y = machine.shiftSource x y := by
  by_cases itself : x = y
  · simp only [shiftSource, itself, ite_self]
  · have same : machine.dialect.shiftVxOnly = dialect.shiftVxOnly := by
      by_contra differ
      exact agreed ⟨itself, differ⟩
    simp only [shiftSource, withDialect, same]
    rfl

private theorem spritePoints_withDialect {x y : VIndex} {rows : RowCount} {sprite : List UInt8}
    (read : machine.memory.readRange machine.registers.i.toNat rows.val = .ok sprite)
    (agreed : ¬(Instruction.draw x y rows).Contested machine.registers machine.dialect dialect) :
    (machine.withDialect dialect).spritePoints x y sprite = machine.spritePoints x y sprite := by
  simp only [spritePoints, withDialect]
  by_cases inside : (machine.registers.get x).toNat + 7 < 64 ∧
      (machine.registers.get y).toNat + rows.val ≤ 32
  · obtain ⟨bytes, same, length, -⟩ :=
      machine.memory.exists_readRange (Memory.within_of_readRange read)
    rw [read] at same
    cases same
    exact Sprite.points_of_inside _ _ inside.1 (length ▸ inside.2)
  · have same : machine.dialect.wrapSprites = dialect.wrapSprites := by
      by_contra differ
      exact agreed ⟨inside, differ⟩
    rw [same]

/-- An uncontested instruction does the same in another dialect. -/
theorem execute_withDialect [Host η] {instruction : Instruction}
    (agreed : ¬instruction.Contested machine.registers machine.dialect dialect) (host : η) :
    (machine.withDialect dialect).execute host instruction =
      ⟨(machine.execute host instruction).machine.withDialect dialect,
        (machine.execute host instruction).host, (machine.execute host instruction).outcome⟩ := by
  have registers : (machine.withDialect dialect).registers = machine.registers := rfl
  have memory : (machine.withDialect dialect).memory = machine.memory := rfl
  have keypad : (machine.withDialect dialect).keypad = machine.keypad := rfl
  cases instruction
  case bitOr x y => simp only [execute, registers, setBitwise_withDialect x _ agreed]
  case bitAnd x y => simp only [execute, registers, setBitwise_withDialect x _ agreed]
  case bitXor x y => simp only [execute, registers, setBitwise_withDialect x _ agreed]
  case shiftRight x y =>
    simp only [execute, registers, shiftSource_withDialect x y agreed]
    rfl
  case shiftLeft x y =>
    simp only [execute, registers, shiftSource_withDialect x y agreed]
    rfl
  case draw x y rows =>
    cases read : machine.memory.readRange machine.registers.i.toNat rows.val with
    | error refusal =>
      have read' : (machine.withDialect dialect).memory.readRange
          (machine.withDialect dialect).registers.i.toNat rows.val = .error refusal := read
      simp only [execute, drawSprite_of_error read, drawSprite_of_error read']
      rfl
    | ok sprite =>
      have read' : (machine.withDialect dialect).memory.readRange
          (machine.withDialect dialect).registers.i.toNat rows.val = .ok sprite := read
      simp only [execute, drawSprite_of_read read rfl, drawSprite_of_read read' rfl,
        spritePoints_withDialect read agreed]
      rfl
  case ret =>
    simp only [execute, registers]
    split <;> rfl
  case call target =>
    simp only [execute, registers]
    split <;> rfl
  case waitKey x =>
    simp only [execute, registers, keypad]
    split <;> rfl
  case decimal x =>
    simp only [execute, writeAtIndex, registers, memory]
    split <;> rfl
  case store x =>
    simp only [execute, writeAtIndex, registers, memory]
    split
    · rfl
    · next written _ =>
      have advanced := advanceIndex_withDialect { machine with memory := written } x agreed
      rw [← advanced]
      rfl
  case load x =>
    simp only [execute, registers, memory]
    split
    · rfl
    · next bytes _ =>
      have advanced := advanceIndex_withDialect
        (machine.withRegisters (machine.registers.setBlock bytes)) x agreed
      rw [← advanced]
      rfl
  all_goals rfl

/-- Why an instruction is refused does not depend on the dialect. -/
theorem Refuses.withDialect {instruction : Instruction} {fault : Fault}
    (refuses : machine.Refuses instruction fault) :
    (machine.withDialect dialect).Refuses instruction fault := by
  cases refuses with
  | underflow empty => exact .underflow empty
  | overflow full => exact .overflow full
  | outside spanned beyond => exact .outside spanned beyond

/-- A step that completes no contested instruction does the same in another dialect. -/
theorem step_withDialect [Host η] {host : η}
    (agreed : ∀ instruction, machine.completes? host = some instruction →
      ¬instruction.Contested machine.registers machine.dialect dialect) :
    (machine.withDialect dialect).step host =
      ((machine.step host).1.withDialect dialect, (machine.step host).2) := by
  have stepped := machine.step_stepped host
  generalize machine.step host = result at stepped ⊢
  cases stepped with
  | @waited x waiting up =>
    have waiting' : (machine.withDialect dialect).mode = .waitingForKey x := waiting
    exact step_of_waited waiting' up host
  | @resumed x key waiting down =>
    have waiting' : (machine.withDialect dialect).mode = .waitingForKey x := waiting
    exact step_of_resumed waiting' down host
  | @unfetched fault active missing =>
    have active' : (machine.withDialect dialect).mode = .running := active
    exact step_of_unfetched active' missing host
  | @refused instruction fault active fetched refuses =>
    have active' : (machine.withDialect dialect).mode = .running := active
    rw [step_of_refuses active' fetched refuses.withDialect]
    cases instruction <;> rfl
  | @completed instruction flow active fetched done =>
    have active' : (machine.withDialect dialect).mode = .running := active
    have uncontested :
        ¬instruction.Contested machine.registers machine.dialect dialect := by
      intro contested
      have completed := completes?_of_done active fetched done
      cases flow with
      | waitForKey x =>
        cases execute_leads done with
        | waits => exact contested
      | next => exact agreed instruction completed contested
      | skip => exact agreed instruction completed contested
      | jump target => exact agreed instruction completed contested
    have same := execute_withDialect uncontested host
    have done' : ((machine.withDialect dialect).execute host instruction).outcome = .ok flow := by
      rw [same, done]
    rw [step_of_done active' fetched done', same]
    cases flow <;> rfl

theorem step_dialect [Host η] (machine : Machine) (host : η) :
    (machine.step host).1.dialect = machine.dialect := by
  have stepped := machine.step_stepped host
  generalize machine.step host = result at stepped ⊢
  cases stepped with
  | waited => rfl
  | resumed => rfl
  | unfetched => rfl
  | @refused instruction => cases instruction <;> rfl
  | @completed instruction flow =>
    have kept := (machine.execute_untouched host instruction).dialect
    cases flow <;> exact kept

def steps [Host η] (machine : Machine) (host : η) : Nat → Machine × η
  | 0 => (machine, host)
  | count + 1 => (machine.steps host count).1.step (machine.steps host count).2

private theorem steps_dialect [Host η] (machine : Machine) (host : η) (count : Nat) :
    (machine.steps host count).1.dialect = machine.dialect := by
  induction count with
  | zero => rfl
  | succ count ih => rw [steps, step_dialect, ih]

/-- None of the first steps completes an instruction that is contested between the dialect of the
machine and another one. -/
def Uncontested [Host η] (machine : Machine) (host : η) (other : Dialect) (count : Nat) : Prop :=
  ∀ index < count, ∀ instruction,
    (machine.steps host index).1.completes? (machine.steps host index).2 = some instruction →
      ¬instruction.Contested (machine.steps host index).1.registers machine.dialect other

/-- As long as no contested instruction is completed, a machine with another dialect goes through
the same states, its dialect apart, and tells its host the same. -/
theorem steps_withDialect [Host η] {host : η} {count : Nat}
    (agreed : machine.Uncontested host dialect count) :
    (machine.withDialect dialect).steps host count =
      ((machine.steps host count).1.withDialect dialect, (machine.steps host count).2) := by
  induction count with
  | zero => rfl
  | succ count ih =>
    have earlier : machine.Uncontested host dialect count :=
      fun index before => agreed index (Nat.lt_succ_of_lt before)
    have now := agreed count (Nat.lt_succ_self count)
    rw [← machine.steps_dialect host count] at now
    rw [steps, steps, ih earlier, step_withDialect now]

/-- Two machines that differ at most in their dialects differ in nothing else after any number of
processor steps, provided that none of these completes an instruction that the dialects contest.
Neither has then halted without the other, and recorded hosts have received the same calls. -/
theorem steps_agree [Host η] {left right : Machine}
    (same : right = left.withDialect right.dialect) (host : Recorded η) (count : Nat)
    (agreed : left.Uncontested host right.dialect count) :
    (right.steps host count).1 = (left.steps host count).1.withDialect right.dialect ∧
      (right.steps host count).1.fault = (left.steps host count).1.fault ∧
      (right.steps host count).2 = (left.steps host count).2 := by
  have stepped := steps_withDialect agreed
  rw [← same] at stepped
  rw [stepped]
  exact ⟨rfl, rfl, rfl⟩

/-- A machine whose memory holds nothing but sprites, of one row each, for the lowest line of the
display. -/
def atBottom : Machine where
  registers := { Registers.initial with v := Vector.replicate 16 31 }
  memory := ⟨Vector.replicate memorySize 0xD1⟩
  timers := {}
  keypad := .released
  status := { running := true }
  dialect := {}
  mode := .running
  cycles := 0
  fault := none
  random := .zeros

/-- A sprite on the lowest line looks the same when sprites go on at the opposite edge. -/
theorem steps_agree_atBottom :
    let host : Recorded Silent := ⟨.silent, #[]⟩
    let other : Dialect := ⟨true, true, true, true⟩
    atBottom.Uncontested host other 2 ∧
      (atBottom.steps host 2).2.calls.size = 10 ∧
      ((atBottom.withDialect other).steps host 2).2 = (atBottom.steps host 2).2 := by
  intro host other
  have agreed : atBottom.Uncontested host other 2 := by
    have draws : ∀ index < 2,
        (atBottom.steps host index).1.completes? (atBottom.steps host index).2 =
          some (.draw 1 13 1) := by decide +kernel
    have fits : ∀ index < 2,
        ((atBottom.steps host index).1.registers.get 1).toNat + 7 < 64 ∧
          ((atBottom.steps host index).1.registers.get 13).toNat + 1 ≤ 32 := by decide +kernel
    intro index before instruction completed
    rw [draws index before] at completed
    cases completed
    exact fun contested => contested.1 (fits index before)
  exact ⟨agreed, by decide +kernel, (steps_agree rfl host 2 agreed).2.2⟩

end Machine

end Chip8
