import Chip8.Proofs.Calls
import Chip8.Proofs.History
import Chip8.Proofs.Loading

/-! # Subroutines

The call stack of a machine keeps old return addresses behind the stack pointer, and has an end.
Here it is compared with a plain list: a completed call appends the address behind it, a completed
return takes the last address off, a load empties the list, and nothing else counts as a
`Linkage`. `callStack_eq_callers` says that throughout a run the two agree, that the list is never
longer than the stack, at which lengths calls and returns fail, and that a return goes back behind
the call that it matches, whatever calls and returns lie `Nested` between the two.
-/

namespace Chip8

universe u

variable {η : Type u}

/-- What can happen to the open calls of a program. -/
inductive Linkage where
  /-- A call, with the address to return to. -/
  | enter (back : Address)
  | leave
  /-- Another program takes over. -/
  | forget
deriving DecidableEq, Repr

namespace Linkage

/-- What becomes of the return addresses of the open calls, oldest first. -/
def apply (callers : List Address) : Linkage → List Address
  | .enter back => callers ++ [back]
  | .leave => callers.dropLast
  | .forget => []

/-- Calls and returns of which each matches another. -/
inductive Nested : List Linkage → Prop
  | nil : Nested []
  | call {back : Address} {body rest : List Linkage} (inside : Nested body) (behind : Nested rest) :
      Nested (.enter back :: (body ++ .leave :: rest))

/-- Calls that are all matched leave the open ones as they were. -/
theorem Nested.foldl_apply {linkages : List Linkage} (nested : Nested linkages)
    (callers : List Address) : linkages.foldl apply callers = callers := by
  induction nested generalizing callers with
  | nil => rfl
  | call _ _ body rest =>
    rw [List.foldl_cons, List.foldl_append, body, List.foldl_cons, rest]
    exact List.dropLast_concat

end Linkage

/-- What an instruction at an address does to the open calls once it is completed. -/
def Instruction.linkage? (address : Address) : Instruction → Option Linkage
  | .call _ => some (.enter (address + 2))
  | .ret => some .leave
  | _ => none

@[simp] theorem Instruction.linkage?_call (address : Address) (target : Target) :
    (call target).linkage? address = some (.enter (address + 2)) := rfl

@[simp] theorem Instruction.linkage?_ret (address : Address) :
    ret.linkage? address = some .leave := rfl

private theorem Instruction.eq_ret_of_linkage? {instruction : Instruction} {address : Address}
    (left : instruction.linkage? address = some .leave) : instruction = .ret := by
  cases instruction with
  | ret => rfl
  | call => cases left
  | _ => contradiction

namespace Machine

variable [Host η] {machine : Machine} {host : η}

/-- What a processor step does to the open calls. -/
def linkage? (machine : Machine) (host : η) : Option Linkage :=
  (machine.completes? host).bind (Instruction.linkage? machine.registers.pc)

/-- A completed instruction does to the call stack what its linkage does to a list. -/
theorem execute_callStack (depth : machine.registers.sp.toNat ≤ stackDepth)
    {instruction : Instruction} {flow : Flow}
    (done : (machine.execute host instruction).outcome = .ok flow) :
    (machine.execute host instruction).machine.registers.callStack =
      (instruction.linkage? machine.registers.pc).toList.foldl Linkage.apply
        machine.registers.callStack := by
  cases instruction
  case call target =>
    cases pushed : machine.registers.push? (machine.registers.pc + 2) with
    | none =>
      simp only [execute, pushed] at done
      contradiction
    | some after =>
      simp only [execute, pushed, withRegisters, Registers.callStack_of_push? pushed,
        Instruction.linkage?_call, Option.toList_some, List.foldl_cons, List.foldl_nil,
        Linkage.apply]
  case ret =>
    cases popped : machine.registers.pop? with
    | none =>
      simp only [execute, popped] at done
      contradiction
    | some after =>
      simp only [execute, popped, withRegisters, Registers.callStack_of_pop? depth popped,
        Instruction.linkage?_ret, Option.toList_some, List.foldl_cons, List.foldl_nil,
        Linkage.apply, List.dropLast_concat]
  case draw x y rows =>
    cases read : machine.memory.readRange machine.registers.i.toNat rows.val with
    | error refusal =>
      simp only [execute, drawSprite_of_error read]
      rfl
    | ok sprite =>
      simp only [execute, drawSprite_of_read read rfl]
      rfl
  case decimal x =>
    simp only [execute, writeAtIndex]
    split <;> rfl
  case store x =>
    simp only [execute, writeAtIndex, advanceIndex_eq]
    split <;> rfl
  case load x =>
    simp only [execute, advanceIndex_eq]
    split <;> rfl
  case waitKey x =>
    simp only [execute]
    split <;> rfl
  case bitOr x y | bitAnd x y | bitXor x y =>
    simp only [execute, setBitwise]
    split <;> rfl
  all_goals rfl

/-- A step that completes an instruction has its linkage. One that begins a wait has none. -/
theorem linkage?_of_done {instruction : Instruction} {flow : Flow}
    (active : machine.mode = .running)
    (fetched : machine.instructionAt machine.registers.pc = .ok instruction)
    (done : (machine.execute host instruction).outcome = .ok flow) :
    machine.linkage? host = instruction.linkage? machine.registers.pc := by
  rcases completes_or_waits active fetched done with completed | ⟨⟨x, rfl⟩, waits⟩
  · rw [linkage?, completed]
    rfl
  · rw [linkage?, waits]
    rfl

/-- A processor step does to the call stack what its linkage does to a list. -/
theorem step_callStack (bounds : machine.InBounds) (host : η) :
    (machine.step host).1.registers.callStack =
      (machine.linkage? host).toList.foldl Linkage.apply machine.registers.callStack := by
  have stepped := machine.step_stepped host
  generalize machine.step host = result at stepped ⊢
  cases stepped with
  | waited waiting up =>
    rw [linkage?, completes?_of_waiting waiting, up]
    rfl
  | resumed waiting down =>
    rw [linkage?, completes?_of_waiting waiting, down]
    rfl
  | unfetched active missing =>
    rw [linkage?, completes?_of_unfetched active missing]
    rfl
  | @refused instruction fault active fetched refuses =>
    rw [linkage?, completes?_of_refuses active fetched refuses]
    cases instruction <;> rfl
  | @completed instruction flow active fetched done =>
    rw [linkage?_of_done active fetched done, ← execute_callStack bounds.registers.depth done]
    cases flow <;> rfl

private theorem fault_of_done (bounds : machine.InBounds) (running : machine.isRunning = true)
    {instruction : Instruction} {flow : Flow} (active : machine.mode = .running)
    (fetched : machine.instructionAt machine.registers.pc = .ok instruction)
    (done : (machine.execute host instruction).outcome = .ok flow) :
    (machine.step host).1.fault = none := by
  rw [step_of_done active fetched done, (follow_execute ..).1, bounds.untroubled running]

/-- A call fails if the stack is full, and is completed otherwise. -/
theorem step_call (bounds : machine.InBounds) (running : machine.isRunning = true)
    {target : Target}
    (fetched : machine.instructionAt machine.registers.pc = .ok (.call target)) (host : η) :
    ((machine.step host).1.fault = some .stackOverflow ↔
        machine.registers.callStack.length = stackDepth) ∧
      (machine.registers.callStack.length ≠ stackDepth →
        machine.linkage? host = some (.enter (machine.registers.pc + 2))) := by
  have active := bounds.active_of_fetched fetched (by rintro x ⟨⟩)
  have length := Registers.length_callStack bounds.registers.depth
  cases pushed : machine.registers.push? (machine.registers.pc + 2) with
  | none =>
    have full := Registers.push?_eq_none_iff.mp pushed
    have exact : machine.registers.callStack.length = stackDepth := by
      have := bounds.registers.depth
      omega
    rw [step_of_refuses active fetched (.overflow full)]
    exact ⟨⟨fun _ => exact, fun _ => rfl⟩, fun other => absurd exact other⟩
  | some after =>
    have done : (machine.execute host (.call target)).outcome =
        .ok (.jump (UInt16.ofNat target.val)) := by simp only [execute, pushed]
    have free := (Registers.eq_of_push? pushed).2.2
    have short : machine.registers.callStack.length ≠ stackDepth := by omega
    rw [fault_of_done bounds running active fetched done]
    refine ⟨⟨?_, fun full => absurd full short⟩, fun _ => linkage?_of_done active fetched done⟩
    rintro ⟨⟩

/-- A return fails if no call is open, and goes back to the newest one otherwise. -/
theorem step_ret (bounds : machine.InBounds) (running : machine.isRunning = true)
    (fetched : machine.instructionAt machine.registers.pc = .ok .ret) (host : η) :
    ((machine.step host).1.fault = some .stackUnderflow ↔ machine.registers.callStack = []) ∧
      ∀ address, machine.registers.callStack.getLast? = some address →
        machine.linkage? host = some .leave ∧ (machine.step host).1.registers.pc = address := by
  have active := bounds.active_of_fetched fetched (by rintro x ⟨⟩)
  cases popped : machine.registers.pop? with
  | none =>
    have empty := Registers.pop?_eq_none_iff.mp popped
    have none : machine.registers.callStack = [] := by
      simp only [Registers.callStack, empty]
      rfl
    rw [step_of_refuses active fetched (.underflow empty), none]
    refine ⟨⟨fun _ => rfl, fun _ => rfl⟩, ?_⟩
    rintro address ⟨⟩
  | some result =>
    obtain ⟨back, after⟩ := result
    have done : (machine.execute host .ret).outcome = .ok (.jump back) := by
      simp only [execute, popped]
    have stack := Registers.callStack_of_pop? bounds.registers.depth popped
    rw [fault_of_done bounds running active fetched done, stack]
    constructor
    · constructor
      · rintro ⟨⟩
      · intro empty
        exact absurd empty (List.concat_ne_nil _ _)
    · intro address newest
      rw [List.getLast?_concat] at newest
      cases newest
      refine ⟨linkage?_of_done active fetched done, ?_⟩
      rw [step_of_done active fetched done]
      rfl

end Machine

namespace Moment

variable [Host η] {moment : Moment η}

def linkage? (moment : Moment η) : Option Linkage :=
  match moment.activity with
  | .load .. => some .forget
  | .step => moment.machine.linkage? moment.host
  | _ => none

/-- A moment does to the call stack what its linkage does to a list. -/
theorem callStack_after (bounds : moment.machine.InBounds) :
    moment.after.1.registers.callStack =
      moment.linkage?.toList.foldl Linkage.apply moment.machine.registers.callStack := by
  obtain ⟨activity, machine, host⟩ := moment
  cases activity with
  | load program dialect =>
    simp only [after, before, Activity.apply, Machine.load_eq]
    rfl
  | step => exact Machine.step_callStack bounds host
  | poll => exact congrArg Registers.callStack (machine.rests_pollInput host).registers
  | cycle => exact congrArg Registers.callStack (machine.rests_tickTimers host).registers
  | pause => rfl
  | stop => rfl

/-- The instruction that a processor step finds at a moment. -/
def Meets (moment : Moment η) (instruction : Instruction) : Prop :=
  moment.activity = .step ∧
    moment.machine.instructionAt moment.machine.registers.pc = .ok instruction

private theorem meets_ret_of_linkage? (bounds : moment.machine.InBounds)
    (left : moment.linkage? = some .leave) : moment.Meets .ret := by
  obtain ⟨activity, machine, host⟩ := moment
  cases activity with
  | step =>
    obtain ⟨instruction, completed, linked⟩ := Option.bind_eq_some_iff.mp left
    have same : instruction = .ret := Instruction.eq_ret_of_linkage? linked
    exact ⟨rfl, same ▸ Machine.fetched_of_completes? bounds completed⟩
  | load => cases left
  | _ => contradiction

/-- How a moment goes that finds some open calls. -/
structure Obeys (moment : Moment η) (callers : List Address) : Prop where
  stack : moment.machine.registers.callStack = callers
  call : ∀ target, moment.Meets (.call target) →
    (moment.after.1.fault = some .stackOverflow ↔ callers.length = 16) ∧
      (callers.length ≠ 16 →
        moment.linkage? = some (.enter (moment.machine.registers.pc + 2)))
  ret : moment.Meets .ret →
    (moment.after.1.fault = some .stackUnderflow ↔ callers = []) ∧
      ∀ address, callers.getLast? = some address →
        moment.linkage? = some .leave ∧ moment.after.1.registers.pc = address

private theorem obeys (bounds : moment.machine.InBounds)
    (running : moment.activity.needsProgram = true → moment.machine.isRunning = true) :
    moment.Obeys moment.machine.registers.callStack := by
  obtain ⟨activity, machine, host⟩ := moment
  refine ⟨rfl, ?_, ?_⟩
  · rintro target ⟨rfl, fetched⟩
    exact Machine.step_call bounds (running rfl) fetched host
  · rintro ⟨rfl, fetched⟩
    exact Machine.step_ret bounds (running rfl) fetched host

end Moment

/-- The return addresses of the calls that are open after some moments, oldest first. -/
def callers [Host η] (moments : List (Moment η)) : List Address :=
  (moments.filterMap Moment.linkage?).foldl Linkage.apply []

namespace Chain

variable [Host η] {start final : Machine × η} {moments : List (Moment η)}

/-- Moments do to the call stack what their linkages do to a list. -/
theorem callStack (chain : Chain start moments final) (bounds : start.1.InBounds) :
    final.1.registers.callStack =
      (moments.filterMap Moment.linkage?).foldl Linkage.apply start.1.registers.callStack := by
  induction chain with
  | nil => rfl
  | @cons moment rest final running tail ih =>
    have bounded : moment.after.1.InBounds := (single running).inBounds bounds
    have linked := moment.callStack_after bounds
    rw [ih bounded, linked]
    cases linkage : moment.linkage? with
    | none =>
      rw [List.filterMap_cons_none linkage]
      rfl
    | some first =>
      rw [List.filterMap_cons_some linkage]
      rfl

/-- A return that matches a call goes back behind it and leaves the stack that the call found. -/
theorem matched {call ret : Moment η} {past inner future : List (Moment η)} {back : Address}
    (chain : Chain start (past ++ call :: (inner ++ ret :: future)) final)
    (bounds : start.1.InBounds) (called : call.linkage? = some (.enter back))
    (nested : Linkage.Nested (inner.filterMap Moment.linkage?))
    (returned : ret.linkage? = some .leave) :
    ret.after.1.registers.pc = back ∧
      ret.after.1.registers.callStack = call.machine.registers.callStack := by
  obtain ⟨prelude, running, tail⟩ := chain.around
  obtain ⟨body, running', -⟩ := tail.around
  have calling : call.machine.InBounds := prelude.inBounds bounds
  have inside : call.after.1.InBounds := (single running).inBounds calling
  have returning : ret.machine.InBounds := body.inBounds inside
  have reached : ret.machine.registers.callStack = call.machine.registers.callStack ++ [back] := by
    have entered := call.callStack_after calling
    have stack := body.callStack inside
    rw [nested.foldl_apply, entered, called] at stack
    exact stack
  have meets := ret.meets_ret_of_linkage? returning returned
  have newest : ret.machine.registers.callStack.getLast? = some back := by
    rw [reached, List.getLast?_concat]
  have left := ret.callStack_after returning
  rw [returned, reached] at left
  refine ⟨(((ret.obeys returning running').ret meets).2 back newest).2, ?_⟩
  rw [left]
  exact List.dropLast_concat

end Chain

namespace Console

/-- From a load on, the call stack of the machine is the list of the open calls, of which there are
never more than sixteen, and calls and returns do as that list says. A return that matches a call
goes back behind it, with the calls open that were open before. -/
theorem callStack_eq_callers [Host η] (console : Console η) (program : List UInt8)
    (dialect : Dialect) (operations : List Operation) :
    let loaded := console.load program dialect
    let history := loaded.history operations
    (loaded.run operations).machine.registers.callStack = callers history ∧
      (callers history).length ≤ 16 ∧
      (∀ past moment future, history = past ++ moment :: future → moment.Obeys (callers past)) ∧
      ∀ past call inner ret future, history = past ++ call :: (inner ++ ret :: future) →
        call.linkage? = some (.enter (call.machine.registers.pc + 2)) →
        Linkage.Nested (inner.filterMap Moment.linkage?) → ret.linkage? = some .leave →
          ret.after.1.registers.pc = call.machine.registers.pc + 2 ∧
            ret.after.1.registers.callStack = callers past := by
  intro loaded history
  have bounds : loaded.machine.InBounds :=
    Machine.InBounds.load console.machine console.host program dialect
  have empty : loaded.machine.registers.callStack = [] := by
    rw [machine_load]
    rfl
  have chain : Chain loaded.state history (loaded.run operations).state :=
    loaded.chain_history operations
  -- The stack is compared with the list at the end of any chain that starts with the load.
  have stack {final : Machine × η} {past : List (Moment η)}
      (chain : Chain loaded.state past final) : final.1.registers.callStack = callers past := by
    have folded := chain.callStack bounds
    rwa [state, empty] at folded
  refine ⟨stack chain, ?_, ?_, ?_⟩
  · have inBounds : (loaded.run operations).machine.InBounds := chain.inBounds bounds
    have depth := inBounds.registers.depth
    have short := Registers.length_callStack depth ▸ depth
    exact stack chain ▸ short
  · intro past moment future cut
    rw [cut] at chain
    obtain ⟨prelude, running, -⟩ := chain.around
    have inBounds : moment.machine.InBounds := prelude.inBounds bounds
    have found : moment.machine.registers.callStack = callers past := stack prelude
    exact found ▸ moment.obeys inBounds running
  · intro past call inner ret future cut called nested returned
    rw [cut] at chain
    have found : call.machine.registers.callStack = callers past := stack chain.around.1
    obtain ⟨back, left⟩ := chain.matched bounds called nested returned
    exact ⟨back, left.trans found⟩

end Console

end Chip8
