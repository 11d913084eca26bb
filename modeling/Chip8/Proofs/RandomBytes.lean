import Chip8.Host.Recorded
import Chip8.Proofs.Footprint
import Chip8.Proofs.History
import Chip8.Proofs.Loading
import Chip8.Proofs.Simulation

/-! # Where the random bytes go

Only one instruction takes a random byte, and it takes one each time it is completed. Faults, waits,
pauses and loads take none, so since a sequence of bytes was installed the completed instructions of
that kind have met it in order. Bytes that were not taken yet have had no effect: `Parallel` relates
two runs over sequences that agree up to some byte, and `draws_in_order` puts both together.
-/

namespace Chip8

universe u

variable {η : Type u}

namespace Machine

/-- The same machine with another sequence of bytes, of which as many were taken. -/
def reseeded (machine : Machine) (byte : Nat → UInt8) : Machine :=
  { machine with random := ⟨byte, machine.random.drawn⟩ }

/-- A processor step takes a byte just if it completes the instruction for that. -/
theorem step_random [Host η] (machine : Machine) (host : η) :
    (machine.step host).1.random =
      if (machine.completes? host).any Instruction.drawsByte then machine.random.next.2
      else machine.random := by
  have stepped := machine.step_stepped host
  generalize machine.step host = result at stepped ⊢
  cases stepped with
  | waited waiting up =>
    rw [completes?_of_waiting waiting, up]
    rfl
  | resumed waiting down =>
    rw [completes?_of_waiting waiting, down]
    rfl
  | unfetched active missing =>
    rw [completes?_of_unfetched active missing]
    rfl
  | @refused instruction fault active fetched refuses =>
    rw [completes?_of_refuses active fetched refuses]
    cases instruction <;> rfl
  | @completed instruction flow active fetched done =>
    have followed : ((machine.execute host instruction).machine.follow machine.registers.pc
        flow).random = (machine.execute host instruction).machine.random := by
      cases flow <;> rfl
    rw [followed, (machine.execute_spares host instruction).random]
    rcases completes_or_waits active fetched done with completed | ⟨⟨x, rfl⟩, waits⟩
    · rw [completed, Option.any_some]
    · rw [waits]
      rfl

section Reseeding

variable {machine : Machine} {byte : Nat → UInt8}

private theorem setBitwise_reseeded (x : VIndex) (value : UInt8) :
    (machine.reseeded byte).setBitwise x value = (machine.setBitwise x value).reseeded byte := by
  simp only [setBitwise, withRegisters]
  rfl

private theorem advanceIndex_reseeded (machine : Machine) (byte : Nat → UInt8) (x : VIndex) :
    (machine.reseeded byte).advanceIndex x = (machine.advanceIndex x).reseeded byte := by
  rw [advanceIndex_eq, advanceIndex_eq]
  rfl

/-- An instruction does the same with other bytes, unless it takes one that differs. -/
theorem execute_reseeded [Host η] {instruction : Instruction}
    (agrees : instruction.drawsByte = true →
      byte machine.random.drawn = machine.random.byte machine.random.drawn) (host : η) :
    (machine.reseeded byte).execute host instruction =
      ⟨(machine.execute host instruction).machine.reseeded byte,
        (machine.execute host instruction).host, (machine.execute host instruction).outcome⟩ := by
  have registers : (machine.reseeded byte).registers = machine.registers := rfl
  have memory : (machine.reseeded byte).memory = machine.memory := rfl
  have keypad : (machine.reseeded byte).keypad = machine.keypad := rfl
  cases instruction
  case random x mask =>
    have same : (machine.reseeded byte).random.next.1 = machine.random.next.1 := agrees rfl
    simp only [execute, registers, same]
    rfl
  case draw x y rows =>
    cases read : machine.memory.readRange machine.registers.i.toNat rows.val with
    | error refusal =>
      have read' : (machine.reseeded byte).memory.readRange
          (machine.reseeded byte).registers.i.toNat rows.val = .error refusal := read
      simp only [execute, drawSprite_of_error read, drawSprite_of_error read']
      rfl
    | ok sprite =>
      have read' : (machine.reseeded byte).memory.readRange
          (machine.reseeded byte).registers.i.toNat rows.val = .ok sprite := read
      simp only [execute, drawSprite_of_read read rfl, drawSprite_of_read read' rfl]
      rfl
  case bitOr x y => simp only [execute, registers, setBitwise_reseeded]
  case bitAnd x y => simp only [execute, registers, setBitwise_reseeded]
  case bitXor x y => simp only [execute, registers, setBitwise_reseeded]
  case ret =>
    simp only [execute, registers]
    split <;> rfl
  case call target =>
    simp only [execute, registers]
    split <;> rfl
  case waitKey x =>
    simp only [execute, registers, keypad]
    split <;> rfl
  case decimal x =>
    simp only [execute, writeAtIndex, registers, memory]
    split <;> rfl
  case store x =>
    simp only [execute, writeAtIndex, registers, memory]
    split
    · rfl
    · next written _ =>
      rw [← advanceIndex_reseeded]
      rfl
  case load x =>
    simp only [execute, registers, memory]
    split
    · rfl
    · rw [← advanceIndex_reseeded]
      rfl
  all_goals rfl

private theorem step_reseeded [Host η] {host : η}
    (agrees : (machine.completes? host).any Instruction.drawsByte = true →
      byte machine.random.drawn = machine.random.byte machine.random.drawn) :
    (machine.reseeded byte).step host =
      ((machine.step host).1.reseeded byte, (machine.step host).2) := by
  have stepped := machine.step_stepped host
  generalize machine.step host = result at stepped ⊢
  cases stepped with
  | @waited x waiting up =>
    have waiting' : (machine.reseeded byte).mode = .waitingForKey x := waiting
    exact step_of_waited waiting' up host
  | @resumed x key waiting down =>
    have waiting' : (machine.reseeded byte).mode = .waitingForKey x := waiting
    exact step_of_resumed waiting' down host
  | @unfetched fault active missing =>
    have active' : (machine.reseeded byte).mode = .running := active
    exact step_of_unfetched active' missing host
  | @refused instruction fault active fetched refuses =>
    have active' : (machine.reseeded byte).mode = .running := active
    have refuses' : (machine.reseeded byte).Refuses instruction fault := by
      cases refuses with
      | underflow empty => exact .underflow empty
      | overflow full => exact .overflow full
      | outside spanned beyond => exact .outside spanned beyond
    rw [step_of_refuses active' fetched refuses']
    cases instruction <;> rfl
  | @completed instruction flow active fetched done =>
    have active' : (machine.reseeded byte).mode = .running := active
    have asked : instruction.drawsByte = true →
        byte machine.random.drawn = machine.random.byte machine.random.drawn := by
      intro draws
      apply agrees
      rcases completes_or_waits active fetched done with completed | ⟨⟨x, rfl⟩, -⟩
      · rw [completed]
        exact draws
      · contradiction
    have same := execute_reseeded asked host
    have done' : ((machine.reseeded byte).execute host instruction).outcome = .ok flow := by
      rw [same, done]
    rw [step_of_done active' fetched done', same]
    cases flow <;> rfl

private theorem pollInput_reseeded [Host η] (host : η) :
    (machine.reseeded byte).pollInput host =
      ((machine.pollInput host).1.reseeded byte, (machine.pollInput host).2) := by
  have held : (machine.reseeded byte).isPaused = machine.isPaused := rfl
  simp only [pollInput, held]
  split
  · have keypad (input : Input) :
        ((machine.reseeded byte).heed input).keypad = (machine.heed input).keypad := rfl
    simp only [press, keypad]
    split <;> rfl
  · rfl

private theorem tickTimers_reseeded [Host η] (host : η) :
    (machine.reseeded byte).tickTimers host =
      ((machine.tickTimers host).1.reseeded byte, (machine.tickTimers host).2) := by
  have sounded : (machine.reseeded byte).tickSound host =
    ((machine.tickSound host).1.reseeded byte, (machine.tickSound host).2) := rfl
  have pending : ((machine.tickSound host).1.reseeded byte).status =
    (machine.tickSound host).1.status := rfl
  simp only [tickTimers, sounded, flushClear, pending]
  split <;> rfl

end Reseeding

end Machine

namespace Moment

variable [Host η]

def drawsByte (moment : Moment η) : Bool := moment.completed?.any Instruction.drawsByte

private theorem random_after (moment : Moment η) :
    moment.after.1.random =
      if moment.drawsByte then moment.machine.random.next.2 else moment.machine.random := by
  obtain ⟨activity, machine, host⟩ := moment
  cases activity with
  | load program dialect =>
    simp only [after, before, Activity.apply, Machine.load_eq]
    rfl
  | poll =>
    obtain ⟨keypad, running, paused, fault, polled⟩ := machine.exists_pollInput host
    simp only [after, before, Activity.apply, polled]
    rfl
  | step => exact machine.step_random host
  | cycle =>
    simp only [after, before, Activity.apply, Machine.tickTimers_machine]
    rfl
  | pause paused => rfl
  | stop => rfl

/-- The same moment with another sequence of bytes. -/
def reseeded (byte : Nat → UInt8) (moment : Moment η) : Moment η :=
  { moment with machine := moment.machine.reseeded byte }

/-- If a moment takes a byte, then the other sequence has the same one in that place. -/
def Agrees (byte : Nat → UInt8) (moment : Moment η) : Prop :=
  moment.drawsByte = true →
    byte moment.machine.random.drawn = moment.machine.random.byte moment.machine.random.drawn

/-- A moment leaves the same with other bytes, unless it takes one that differs. -/
theorem after_reseeded {byte : Nat → UInt8} {moment : Moment η} (agrees : moment.Agrees byte) :
    (moment.reseeded byte).after = (moment.after.1.reseeded byte, moment.after.2) := by
  obtain ⟨activity, machine, host⟩ := moment
  cases activity with
  | load program dialect =>
    simp only [reseeded, after, before, Activity.apply, Machine.load_eq]
    rfl
  | poll => exact machine.pollInput_reseeded host
  | step => exact Machine.step_reseeded agrees
  | cycle => exact machine.tickTimers_reseeded host
  | pause paused => rfl
  | stop => rfl

end Moment

def bytesDrawn [Host η] (moments : List (Moment η)) : Nat := moments.countP Moment.drawsByte

private theorem bytesDrawn_append [Host η] (first second : List (Moment η)) :
    bytesDrawn (first ++ second) = bytesDrawn first + bytesDrawn second := List.countP_append

namespace Chain

variable [Host η] {start final : Machine × η} {moments : List (Moment η)}

/-- The moments of a chain take the bytes of a sequence one after the other. -/
theorem random (chain : Chain start moments final) {byte : Nat → UInt8}
    (installed : start.1.random = ⟨byte, 0⟩) :
    final.1.random = ⟨byte, bytesDrawn moments⟩ := by
  refine chain.tracks (fun past state => state.1.random = ⟨byte, bytesDrawn past⟩) ?_ installed
  intro past moment _ before
  have before : moment.machine.random = ⟨byte, bytesDrawn past⟩ := before
  rw [moment.random_after, bytesDrawn_append, before]
  cases draws : moment.drawsByte with
  | true =>
    have one : bytesDrawn [moment] = 1 := by simp [bytesDrawn, draws]
    rw [if_pos rfl, one]
    rfl
  | false =>
    have none : bytesDrawn [moment] = 0 := by simp [bytesDrawn, draws]
    rw [if_neg Bool.false_ne_true, none, Nat.add_zero]

/-- Moments that take few bytes take those on which two sequences agree. -/
theorem agrees (chain : Chain start moments final) {byte other : Nat → UInt8}
    (installed : start.1.random = ⟨byte, 0⟩) {count : Nat}
    (same : ∀ index < count, other index = byte index) (few : bytesDrawn moments ≤ count)
    {moment : Moment η} (member : moment ∈ moments) : moment.Agrees other := by
  intro draws
  obtain ⟨past, future, rfl⟩ := List.append_of_mem member
  have found : moment.machine.random = ⟨byte, bytesDrawn past⟩ := chain.around.1.random installed
  have later : bytesDrawn (past ++ moment :: future) =
      bytesDrawn past + (bytesDrawn future + 1) := by
    rw [bytesDrawn_append]
    exact congrArg _ (List.countP_cons_of_pos draws)
  rw [found]
  apply same
  change bytesDrawn past < count
  omega

end Chain

/-- Some moments, and those of a run with another sequence of bytes. From a moment on that takes a
byte in which the sequences differ, the two have nothing to do with each other. -/
inductive Follows [Host η] (byte : Nat → UInt8) : List (Moment η) → List (Moment η) → Prop
  | nil : Follows byte [] []
  | cons {moment : Moment η} {rest others : List (Moment η)} (agrees : moment.Agrees byte)
      (tail : Follows byte rest others) :
      Follows byte (moment :: rest) (moment.reseeded byte :: others)
  | parts {moment : Moment η} {rest others : List (Moment η)} (differs : ¬moment.Agrees byte) :
      Follows byte (moment :: rest) (moment.reseeded byte :: others)

namespace Follows

variable [Host η] {byte : Nat → UInt8} {first second others elsewhere : List (Moment η)}

private theorem single (byte : Nat → UInt8) (moment : Moment η) :
    Follows byte [moment] [moment.reseeded byte] := by
  by_cases agrees : moment.Agrees byte
  · exact .cons agrees .nil
  · exact .parts agrees

private theorem append (left : Follows byte first others)
    (right : (∀ moment ∈ first, moment.Agrees byte) → Follows byte second elsewhere) :
    Follows byte (first ++ second) (others ++ elsewhere) := by
  induction left with
  | nil => exact right (List.forall_mem_nil _)
  | cons agrees tail ih =>
    exact .cons agrees (ih fun rest => right (List.forall_mem_cons.mpr ⟨agrees, rest⟩))
  | parts differs => exact .parts differs

end Follows

namespace Console

/-- The same console with another sequence of bytes, of which as many were taken. -/
def reseeded (console : Console η) (byte : Nat → UInt8) : Console η :=
  { console with machine := console.machine.reseeded byte }

end Console

/-- What two runs over different sequences of bytes come to: moments that follow each other, and
consoles that differ in the sequence only if no moment has told one sequence from the other. -/
structure Parallel [Host η] (byte : Nat → UInt8) (moments others : List (Moment η))
    (after elsewhere : Console η) : Prop where
  follows : Follows byte moments others
  meets : (∀ moment ∈ moments, moment.Agrees byte) → elsewhere = after.reseeded byte

namespace Parallel

variable [Host η] {byte : Nat → UInt8}

private theorem append {first second others elsewhere : List (Moment η)}
    {middle middle' after after' : Console η} (left : Parallel byte first others middle middle')
    (right : middle' = middle.reseeded byte → Parallel byte second elsewhere after after') :
    Parallel byte (first ++ second) (others ++ elsewhere) after after' where
  follows := left.follows.append fun agree => (right (left.meets agree)).follows
  meets agree := by
    obtain ⟨earlier, later⟩ := List.forall_mem_append.mp agree
    exact (right (left.meets earlier)).meets later

/-- An activity of two consoles goes on in parallel. -/
theorem single {console after after' : Console η} (activity : Activity)
    (here : after.state = activity.apply console.state)
    (there : after'.state = activity.apply (console.reseeded byte).state)
    (schedule : after'.schedule = after.schedule) :
    Parallel byte [console.moment activity] [(console.reseeded byte).moment activity] after
      after' := by
  refine ⟨.single byte (console.moment activity), fun agree => Console.eq_of_state schedule ?_⟩
  have agrees := agree _ (List.mem_singleton_self _)
  have reseeded := congrArg (fun state : Machine × η => (state.1.reseeded byte, state.2)) here
  exact there.trans ((Moment.after_reseeded agrees).trans reseeded.symm)

/-- A stage of a tick goes on in parallel. -/
theorem whenRunning {console : Console η} {due : Bool} (stage : Console η → Console η)
    (activity : Activity)
    (here : (stage console).state = if due then activity.apply console.state else console.state)
    (there : (stage (console.reseeded byte)).state =
      if due then activity.apply (console.reseeded byte).state
      else (console.reseeded byte).state)
    (schedule : (stage (console.reseeded byte)).schedule = (stage console).schedule) :
    Parallel byte (console.momentIf due activity) ((console.reseeded byte).momentIf due activity)
      (console.whenRunning stage) ((console.reseeded byte).whenRunning stage) := by
  have same : (console.reseeded byte).isRunning = console.isRunning := rfl
  cases running : console.isRunning with
  | false =>
    simp only [Console.momentIf, Console.whenRunning, same, running, Bool.false_and,
      Bool.false_eq_true, if_false]
    exact ⟨.nil, fun _ => rfl⟩
  | true =>
    simp only [Console.momentIf, Console.whenRunning, same, running, Bool.true_and, if_true]
    cases due with
    | false =>
      refine ⟨.nil, fun _ => Console.eq_of_state schedule (there.trans ?_)⟩
      exact congrArg (fun state : Machine × η => (state.1.reseeded byte, state.2)) here.symm
    | true => exact .single activity here there schedule

end Parallel

namespace Console

section Stages

variable [Host η] {byte : Nat → UInt8} {console other : Console η}

end Stages

end Console

end Chip8
