import Chip8.Proofs.Calls
import Chip8.Proofs.Operation

/-! # Halting is final and told once

A console whose machine has stopped does nothing until a program is loaded: requests other than a
load leave it as it is, up to the pause bit. And between two loads the host hears of a fault at most
once, of the one that the machine keeps, and of nothing after it. `Accounts` is what every activity
keeps for that: while the machine runs nothing was told, and what stopped it was told last.
-/

namespace Chip8

universe u

variable {η : Type u}

/-- Whether the processor is held after a request that nothing else comes of. -/
def Operation.pausedAfter (before : Bool) : Operation → Bool
  | .pause paused => paused
  | _ => before

namespace Console

theorem whenRunning_of_halted {console : Console η} (halted : console.isRunning = false)
    (action : Console η → Console η) : console.whenRunning action = console := by
  rw [whenRunning, halted]
  rfl

private theorem stop_of_halted {console : Console η} (halted : console.isRunning = false) :
    console.stop = console := by
  rw [isRunning, Machine.isRunning] at halted
  rw [stop, ← halted]

theorem tickAt_of_halted [Host η] {console : Console η} (halted : console.isRunning = false)
    (now : UInt32) : console.tickAt now = console := by
  rw [tickAt, whenRunning_of_halted halted, whenRunning_of_halted halted,
    whenRunning_of_halted halted]

/-- A request to a stopped machine comes to nothing, or to a pause. -/
theorem perform_of_halted [Host η] {console : Console η} (halted : console.isRunning = false)
    {operation : Operation} (noLoad : operation.isLoad = false) :
    console.perform operation =
      console.pause (operation.pausedAfter console.isPaused) := by
  cases operation with
  | load => contradiction
  | tickAt now => exact tickAt_of_halted halted now
  | step => exact whenRunning_of_halted halted (·.act Machine.step)
  | tickTimers => exact whenRunning_of_halted halted (·.act Machine.tickTimers)
  | pause paused => rfl
  | stop => exact stop_of_halted halted

/-- What requests to a stopped machine come to, one after the other. -/
theorem run_of_halted [Host η] {console : Console η} (halted : console.isRunning = false)
    {operations : List Operation} (noLoad : ∀ operation ∈ operations, operation.isLoad = false) :
    console.run operations =
      console.pause (operations.foldl Operation.pausedAfter console.isPaused) := by
  induction operations generalizing console with
  | nil => rfl
  | cons operation rest ih =>
    obtain ⟨first, others⟩ := List.forall_mem_cons.mp noLoad
    have still : (console.pause (operation.pausedAfter console.isPaused)).isRunning = false :=
      halted
    rw [run_cons, perform_of_halted halted first, ih still others]
    rfl

/-- A program that does not fit stops the machine. -/
theorem load_of_tooLarge [Host η] (console : Console η) {program : List UInt8}
    (tooLarge : maxProgramSize < program.length) (dialect : Dialect) :
    (console.load program dialect).isRunning = false ∧
      (console.load program dialect).fault? =
        some (.romTooLarge program.length maxProgramSize) := by
  have refused : (console.machine.reset dialect).memory.loadProgram program =
      .error (.programTooLarge program.length maxProgramSize) := if_neg (Nat.not_le.mpr tooLarge)
  simp only [load, act, isRunning, fault?, Machine.load, refused]
  exact ⟨rfl, rfl⟩

/-- Only a program that fits starts a stopped machine. -/
theorem isRunning_run_of_halted [Host η] {console : Console η} (halted : console.isRunning = false)
    {operations : List Operation}
    (tooLarge : ∀ program dialect, .load program dialect ∈ operations →
      maxProgramSize < program.length) :
    (console.run operations).isRunning = false := by
  induction operations generalizing console with
  | nil => exact halted
  | cons operation rest ih =>
    refine ih ?_ fun program dialect member =>
      tooLarge program dialect (List.mem_cons_of_mem _ member)
    cases isLoad : operation.isLoad with
    | false =>
      rw [perform_of_halted halted isLoad]
      exact halted
    | true =>
      cases operation with
      | load program dialect =>
        have long := tooLarge program dialect (List.mem_cons_self ..)
        exact (console.load_of_tooLarge long dialect).1
      | _ => contradiction

end Console

/-- The calls of a stretch account for the fault that its machine keeps. -/
structure Machine.Accounts (machine : Machine) (made : List Call) : Prop where
  once : made.filterMap Call.fault? = machine.fault.toList
  last : ∀ fault, machine.fault = some fault → made.getLast? = some (.fault fault)
  halted : machine.fault.isSome = true → machine.isRunning = false

namespace Machine

variable {before after : Machine} {earlier made : List Call}

/-- While a machine runs, no fault is kept and none was told. -/
theorem Accounts.silent (accounts : before.Accounts earlier) (running : before.isRunning = true) :
    before.fault = none ∧ earlier.filterMap Call.fault? = [] := by
  have none : before.fault = none := by
    cases fault : before.fault with
    | none => rfl
    | some =>
      have := accounts.halted (fault ▸ rfl)
      rw [running] at this
      contradiction
  exact ⟨none, by rw [accounts.once, none]; rfl⟩

/-- Only the fault matters, and whether it stopped the machine. -/
theorem Accounts.congr (accounts : before.Accounts made) (kept : after.fault = before.fault)
    (halted : after.fault.isSome = true → after.isRunning = false) : after.Accounts made :=
  ⟨kept ▸ accounts.once, kept ▸ accounts.last, halted⟩

private theorem Settles.accounts (settles : before.Settles after made) (none : before.fault = none)
    (silent : earlier.filterMap Call.fault? = []) : after.Accounts (earlier ++ made) := by
  cases settles with
  | untroubled quiet kept =>
    rw [none] at kept
    refine ⟨?_, ?_, ?_⟩
    · rw [List.filterMap_append, silent, quiet, kept]
      rfl
    · intro fault stored
      rw [kept] at stored
      contradiction
    · intro stored
      rw [kept] at stored
      contradiction
  | @halted told fault quiet last stored stopped =>
    subst last
    refine ⟨?_, ?_, fun _ => stopped⟩
    · rw [List.filterMap_append, List.filterMap_append, silent, quiet, stored]
      rfl
    · intro other same
      rw [stored] at same
      cases same
      rw [← List.append_assoc, List.getLast?_concat]

/-- What a stretch that found the host with some calls has added to them. -/
def Accounted (start : List Call) (state : Machine × Recorded η) : Prop :=
  ∃ made, state.2.calls.toList = start ++ made ∧ state.1.Accounts made

private theorem Accounted.trans [Host η] {start : List Call} {machine : Machine} {host : Recorded η}
    {after : Machine × Recorded η} (running : machine.isRunning = true)
    (accounted : Accounted start (machine, host))
    (settled : ∃ made, after.2.calls.toList = host.calls.toList ++ made ∧
      machine.Settles after.1 made) : Accounted start after := by
  obtain ⟨earlier, before, accounts⟩ := accounted
  obtain ⟨made, calls, settles⟩ := settled
  obtain ⟨none, silent⟩ := accounts.silent running
  refine ⟨earlier ++ made, ?_, settles.accounts none silent⟩
  rw [calls, before, List.append_assoc]

private theorem Accounted.invariant [Host η] (start : List Call) :
    Invariant (Accounted (η := η) start) where
  poll running accounted := accounted.trans running (pollInput_settles ..)
  step running accounted := accounted.trans running (step_settles ..)
  cycle running accounted := accounted.trans running (tickTimers_settles ..)
  pause _ accounted := by
    obtain ⟨made, calls, accounts⟩ := accounted
    exact ⟨made, calls, accounts.congr rfl accounts.halted⟩
  stop accounted := by
    obtain ⟨made, calls, accounts⟩ := accounted
    exact ⟨made, calls, accounts.congr rfl fun _ => rfl⟩

end Machine

namespace Console

/-- A load begins a new account, whatever was told before it. -/
theorem accounted_run_load [Host η] (console : Console (Recorded η)) (program : List UInt8)
    (dialect : Dialect) {operations : List Operation}
    (noLoad : ∀ operation ∈ operations, operation.isLoad = false) :
    Machine.Accounted console.host.calls.toList
      (console.run (.load program dialect :: operations)).state := by
  rw [run_cons]
  refine (Machine.Accounted.invariant _).run ?_ ?_
  · intro program dialect member
    have := noLoad _ member
    contradiction
  · obtain ⟨made, calls, settles⟩ := console.machine.load_settles console.host program dialect
    refine ⟨[] ++ made, ?_, settles.accounts rfl rfl⟩
    rw [List.nil_append]
    exact calls

/-- While a machine is stopped, requests that start no program change nothing but the pause bit. And
from a load on, up to the next, the host is told once and last of the fault that is kept, and of no
other. -/
theorem halting_is_final [Host η] (console : Console (Recorded η)) {operations : List Operation}
    (noLoad : ∀ operation ∈ operations, operation.isLoad = false) :
    (∀ earlier, console.isRunning = false →
      (∀ program dialect, .load program dialect ∈ earlier → maxProgramSize < program.length) →
      (console.run earlier).isRunning = false ∧
        (console.run (earlier ++ operations)).isRunning = false ∧
        console.run (earlier ++ operations) =
          { console.run earlier with
            machine.status.paused :=
              operations.foldl Operation.pausedAfter (console.run earlier).isPaused }) ∧
    ∀ program dialect, ∃ made,
      (console.run (.load program dialect :: operations)).host.calls.toList =
        console.host.calls.toList ++ made ∧
      made.filterMap Call.fault? =
        (console.run (.load program dialect :: operations)).fault?.toList ∧
      ∀ fault, (console.run (.load program dialect :: operations)).fault? = some fault →
        made.getLast? = some (.fault fault) := by
  constructor
  · intro earlier halted tooLarge
    have stopped := isRunning_run_of_halted halted tooLarge
    have stayed := run_of_halted stopped noLoad
    rw [run_append]
    exact ⟨stopped, stayed ▸ stopped, stayed⟩
  · intro program dialect
    obtain ⟨made, calls, accounts⟩ := console.accounted_run_load program dialect noLoad
    exact ⟨made, calls, accounts.once, accounts.last⟩

/-- A program that does not fit is told of last, and the requests after it come to a pause. -/
theorem halting_is_final_tooLarge :
    (∀ operation ∈ [Operation.step, .pause true, .tickAt 500], operation.isLoad = false) ∧
      ∃ after : Console (Recorded Silent),
        after = (Console.new ⟨.silent, #[]⟩ .zeros).run
          [.load (List.replicate 4096 0) {}, .step, .pause true, .tickAt 500] ∧
        after.isPaused = true ∧ after.isRunning = false ∧
        after.host.calls.toList.getLast? = some (.fault (.romTooLarge 4096 maxProgramSize)) := by
  have length : (List.replicate 4096 (0 : UInt8)).length = 4096 := List.length_replicate
  -- Only the length of the program matters, and its bytes would be unfolded one by one.
  generalize List.replicate 4096 (0 : UInt8) = program at length ⊢
  have noLoad : ∀ operation ∈ [Operation.step, .pause true, .tickAt 500],
      operation.isLoad = false := by
    decide
  have long : maxProgramSize < program.length := by
    rw [length]
    decide
  have tooLarge : ∀ other dialect, Operation.load other dialect ∈ [Operation.load program {}] →
      maxProgramSize < other.length := by
    intro other dialect member
    injection List.mem_singleton.mp member with same
    exact same ▸ long
  obtain ⟨final, once⟩ :=
    halting_is_final (Console.new (⟨.silent, #[]⟩ : Recorded Silent) .zeros) noLoad
  obtain ⟨-, still, stayed⟩ := final _ rfl tooLarge
  obtain ⟨made, calls, -, last⟩ := once program {}
  have stored :=
    (load_of_tooLarge (Console.new (⟨.silent, #[]⟩ : Recorded Silent) .zeros) long {}).2
  rw [length] at stored
  refine ⟨noLoad, _, rfl, (congrArg isPaused stayed).trans rfl, still, ?_⟩
  rw [calls]
  exact last _ ((congrArg fault? stayed).trans stored)

end Console

end Chip8
