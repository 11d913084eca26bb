import Chip8.Proofs.Operation

/-! # A load forgets the past

A console may have run anything before a program is loaded, and its machine may have been changed
from outside. None of that is left afterwards: `fresh` describes the machine after a load from the
program and the dialect alone, the source of random bytes apart, and `load_forgets_past` says that
this is the machine that any two consoles have after the same load, with the schedule of a new
console. A program that does not fit leaves none of its bytes behind.
-/

namespace Chip8

universe u v

variable {η : Type u} {θ : Type v}

namespace Memory

/-- The byte at an address after a load: the glyphs at their places, the program from `0x200` on,
and zero everywhere else. -/
def image (program : List UInt8) (address : Nat) : UInt8 :=
  if 0x050 ≤ address ∧ address < 0x0A0 then smallGlyphs[address - 0x050]?.getD 0
  else if 0x0A0 ≤ address ∧ address < 0x104 then largeGlyphs[address - 0x0A0]?.getD 0
  else if 0x200 ≤ address then program[address - 0x200]?.getD 0
  else 0

/-- The memory that holds a program and, besides it, nothing but the glyphs. -/
def holding (program : List UInt8) : Memory :=
  ⟨Vector.ofFn fun address : Fin memorySize => image program address.val⟩

theorem get?_holding (program : List UInt8) (address : Nat) :
    (holding program).get? address =
      if address < memorySize then some (image program address) else none := by
  simp only [get?, holding]
  split
  · next inside => rw [Vector.getElem?_eq_getElem inside, Vector.getElem_ofFn]
  · next outside => exact Vector.getElem?_eq_none (Nat.le_of_not_lt outside)

private theorem some_getD_getElem? {bytes : List UInt8} {index : Nat}
    (inside : index < bytes.length) : some (bytes[index]?.getD 0) = bytes[index]? := by
  rw [List.getElem?_eq_getElem inside, Option.getD_some]

/-- A program covers the addresses behind its start, and none of the glyphs. -/
theorem image_eq (program : List UInt8) (address : Nat) :
    some (image program address) =
      if programStart ≤ address ∧ address < programStart + program.length then
        program[address - programStart]?
      else some (image [] address) := by
  simp only [programStart]
  by_cases inside : 0x200 ≤ address ∧ address < 0x200 + program.length
  · rw [if_pos inside, image, if_neg (by omega), if_neg (by omega), if_pos inside.1]
    exact some_getD_getElem? (by omega)
  · rw [if_neg inside]
    by_cases behind : 0x200 ≤ address
    · have beyond : program.length ≤ address - 0x200 := by omega
      simp only [image, List.getElem?_eq_none beyond, List.getElem?_nil]
    · simp only [image, behind, if_false]

private theorem initial_eq : initial = holding [] := by
  apply Memory.ext
  intro address
  rw [get?_holding]
  split
  · next inside =>
    have small : smallGlyphs.length = 80 := rfl
    have large : largeGlyphs.length = 100 := rfl
    have zero : (Vector.replicate memorySize (0 : UInt8))[address]? = some 0 := by
      simp only [Vector.getElem?_replicate, inside, if_true]
    simp only [get?, initial]
    rw [getElem?_splice _ _ _ _ (by decide), getElem?_splice _ _ _ _ (by decide), zero]
    simp only [image, fontStart, bigFontStart, small, large]
    by_cases inLarge : 0x0A0 ≤ address ∧ address < 0x104
    · rw [if_pos (by omega), if_neg (by omega), if_pos inLarge]
      exact (some_getD_getElem? (by omega)).symm
    · rw [if_neg (by omega)]
      by_cases inSmall : 0x050 ≤ address ∧ address < 0x0A0
      · rw [if_pos (by omega), if_pos inSmall]
        exact (some_getD_getElem? (by omega)).symm
      · rw [if_neg (by omega), if_neg inSmall, if_neg inLarge, List.getElem?_nil, Option.getD_none,
          ite_self]
  · next outside => exact get?_eq_none_iff.mpr (Nat.le_of_not_lt outside)

/-- A program that fits is put over zeros. -/
theorem loadProgram_initial {program : List UInt8} (fits : program.length ≤ maxProgramSize) :
    initial.loadProgram program = .ok (holding program) := by
  obtain ⟨loaded, done⟩ : ∃ loaded, initial.loadProgram program = .ok loaded :=
    ⟨_, if_pos fits⟩
  rw [done]
  refine congrArg Except.ok (Memory.ext fun address => ?_)
  rw [get?_of_loadProgram done, initial_eq, get?_holding, get?_holding]
  by_cases inside : address < memorySize
  · simp only [inside, if_true, image_eq program address]
  · simp only [maxProgramSize] at fits
    rw [if_neg inside, if_neg inside, if_neg (by simp only [programStart, memorySize] at *; omega)]

theorem readWord_holding (program : List UInt8) {address : Address}
    (inside : address.toNat + 1 < memorySize) :
    (holding program).readWord address =
      .ok ((image program address.toNat).toUInt16 <<< 8 |||
        (image program (address.toNat + 1)).toUInt16) := by
  have first : address.toNat < memorySize := Nat.lt_of_succ_lt inside
  simp only [readWord, read, get?_holding, first, inside, if_true]
  rfl

end Memory

/-- The bytes of a program that get into memory: all of them, or none if there are too many. -/
def placed (program : List UInt8) : List UInt8 :=
  if program.length ≤ 3584 then program else []

namespace Machine

/-- The machine after a load of a program under a dialect. -/
def fresh (program : List UInt8) (dialect : Dialect) (random : RandomSource) : Machine where
  registers :=
    { v := Vector.replicate 16 0, i := 0, pc := 0x200, stack := Vector.replicate 16 0, sp := 0 }
  memory := .holding (placed program)
  timers := { delay := 0, sound := 0 }
  keypad := { bits := 0 }
  status := { running := decide (program.length ≤ 3584) }
  dialect
  mode := .running
  cycles := 0
  fault := if program.length ≤ 3584 then none else some (.romTooLarge program.length 3584)
  random

theorem load_eq [Host η] (machine : Machine) (host : η) (program : List UInt8)
    (dialect : Dialect) :
    machine.load host program dialect =
      (fresh program dialect machine.random,
        if program.length ≤ 3584 then host
        else Host.reportFault host (.romTooLarge program.length 3584)) := by
  by_cases fits : program.length ≤ 3584
  · have loaded : (machine.reset dialect).memory.loadProgram program = .ok (.holding program) :=
      Memory.loadProgram_initial fits
    simp only [load, loaded, fresh, placed, fits, if_true, decide_true]
    rfl
  · have refused : (machine.reset dialect).memory.loadProgram program =
        .error (.programTooLarge program.length 3584) := if_neg fits
    have memory : (machine.reset dialect).memory = .holding [] := Memory.initial_eq
    simp only [load, refused, fresh, placed, fits, if_false, decide_false, halt, Fault.ofRefusal,
      ← memory]
    rfl

theorem instructionAt_of_holding {machine : Machine} {program : List UInt8} {address : Address}
    {instruction : Instruction} (memory : machine.memory = .holding program)
    (inside : address.toNat + 1 < memorySize)
    (decoded : Instruction.decode? ((Memory.image program address.toNat).toUInt16 <<< 8 |||
      (Memory.image program (address.toNat + 1)).toUInt16) = some instruction) :
    machine.instructionAt address = .ok instruction := by
  rw [instructionAt, memory, Memory.readWord_holding program inside]
  simp only [decoded]

end Machine

/-- Something that happens to a console: a request, or a change from outside that puts any machine
and any host in the place of its own. -/
inductive Episode (η : Type u) where
  | request (operation : Operation)
  | replace (machine : Machine) (host : η)

namespace Console

def undergo [Host η] (console : Console η) : Episode η → Console η
  | .request operation => console.perform operation
  | .replace machine host => { console with machine, host }

def live [Host η] (console : Console η) (episodes : List (Episode η)) : Console η :=
  episodes.foldl undergo console

theorem machine_load [Host η] (console : Console η) (program : List UInt8) (dialect : Dialect) :
    (console.load program dialect).machine = .fresh program dialect console.machine.random := by
  simp only [load, act, Machine.load_eq]

private theorem reset_fire (cadence : Cadence) (now : UInt32) :
    (cadence.fire now).2.reset = cadence.reset := by
  unfold Cadence.fire
  split <;> rfl

private theorem reset_pollStage [Host η] (now : UInt32) (console : Console η) :
    (pollStage now console).schedule.reset = console.schedule.reset := by
  simp only [schedule_pollStage, Schedule.reset, reset_fire]

private theorem reset_cpuStage [Host η] (now : UInt32) (console : Console η) :
    (cpuStage now console).schedule.reset = console.schedule.reset := by
  rw [schedule_cpuStage]
  split
  · rfl
  · simp only [Schedule.reset, reset_fire]

private theorem reset_timerStage [Host η] (now : UInt32) (console : Console η) :
    (timerStage now console).schedule.reset = console.schedule.reset := by
  simp only [schedule_timerStage, Schedule.reset, reset_fire]

/-- The cadences of a console never change but for when they last fired. -/
theorem reset_undergo [Host η] (console : Console η) (episode : Episode η) :
    (console.undergo episode).schedule.reset = console.schedule.reset := by
  cases episode with
  | replace machine host => rfl
  | request operation =>
    cases operation with
    | load program dialect => rfl
    | tickAt now =>
      have polled := whenRunning_keeps (·.schedule.reset) (console.reset_pollStage now)
      have stepped := whenRunning_keeps (·.schedule.reset)
        ((console.whenRunning (pollStage now)).reset_cpuStage now)
      have ticked := whenRunning_keeps (·.schedule.reset)
        (((console.whenRunning (pollStage now)).whenRunning (cpuStage now)).reset_timerStage now)
      exact (ticked.trans stepped).trans polled
    | step => exact whenRunning_keeps (·.schedule.reset) rfl
    | tickTimers => exact whenRunning_keeps (·.schedule.reset) rfl
    | pause paused => rfl
    | stop => rfl

/-- Whatever happens to a console, its cadences start over as those of a new one. -/
theorem reset_live [Host η] (host : η) (random : RandomSource) (episodes : List (Episode η)) :
    ((new host random).live episodes).schedule.reset = .initial := by
  suffices kept : ∀ console : Console η,
      (console.live episodes).schedule.reset = console.schedule.reset from kept (new host random)
  induction episodes with
  | nil => exact fun console => rfl
  | cons episode rest ih =>
    exact fun console => (ih (console.undergo episode)).trans (console.reset_undergo episode)

theorem load_live [Host η] (host : η) (random : RandomSource) (past : List (Episode η))
    (program : List UInt8) (dialect : Dialect) :
    ((new host random).live past).load program dialect =
      { machine := .fresh program dialect ((new host random).live past).machine.random
        schedule := .initial
        host := if program.length ≤ 3584 then ((new host random).live past).host
          else Host.reportFault ((new host random).live past).host
            (.romTooLarge program.length 3584) } := by
  have schedule := reset_live host random past
  generalize (new host random).live past = console at schedule ⊢
  simp only [load, act, Machine.load_eq, schedule]

/-- A load leaves the machine, the schedule and the answer of a load into a new console, whatever
has happened before; only the source of random bytes goes on. A program that does not fit is
reported to the host once, and one that fits is not spoken of. -/
theorem load_forgets_past [Host η] [Host θ] (here : η) (there : θ)
    (random elsewhere : RandomSource) (past : List (Episode η)) (otherPast : List (Episode θ))
    (program : List UInt8) (dialect : Dialect) :
    let left := (new here random).live past
    let right := (new there elsewhere).live otherPast
    ((left.load program dialect).machine =
        { (right.load program dialect).machine with random := left.machine.random } ∧
      (left.load program dialect).schedule = (right.load program dialect).schedule ∧
      (left.load program dialect).fault? = (right.load program dialect).fault?) ∧
    left.load program dialect =
      { machine := .fresh program dialect left.machine.random
        schedule := .initial
        host := if program.length ≤ 3584 then left.host
          else Host.reportFault left.host (.romTooLarge program.length 3584) } := by
  intro left right
  have loaded := load_live here random past program dialect
  have loaded' := load_live there elsewhere otherPast program dialect
  refine ⟨?_, loaded⟩
  rw [loaded, loaded']
  exact ⟨rfl, rfl, rfl⟩

end Console

end Chip8
