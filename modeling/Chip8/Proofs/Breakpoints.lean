import Chip8.Proofs.Dialogue
import Mathlib.Data.List.Nodup

/-! # Which breakpoints are set

Each line that asks a running machine to set or to remove a breakpoint, and names an address, leaves
a mark. The breakpoints are those that the marks leave behind in their order, so one is set exactly
if it was set and not removed since: `mem_breakpoints_iff`.
-/

namespace Chip8.Debugger

/-- A breakpoint that was set or removed. -/
structure Mark where
  address : Address
  isSet : Bool
deriving DecidableEq, Repr

namespace Mark

def apply (breakpoints : List Address) (mark : Mark) : List Address :=
  if mark.isSet then breakpoints.insert mark.address else breakpoints.erase mark.address

def applyAll (breakpoints : List Address) (marks : List Mark) : List Address :=
  marks.foldl apply breakpoints

/-- Some mark sets a breakpoint at an address, and none behind it removes that. -/
def Stands (marks : List Mark) (address : Address) : Prop :=
  ∃ earlier later, marks = earlier ++ ⟨address, true⟩ :: later ∧ ⟨address, false⟩ ∉ later

variable {breakpoints : List Address} {address : Address}

private theorem nodup_apply (nodup : breakpoints.Nodup) (mark : Mark) :
    (apply breakpoints mark).Nodup := by
  unfold apply
  split
  · exact nodup.insert
  · exact nodup.erase mark.address

private theorem nodup_applyAll (nodup : breakpoints.Nodup) (marks : List Mark) :
    (applyAll breakpoints marks).Nodup := by
  induction marks generalizing breakpoints with
  | nil => exact nodup
  | cons mark rest ih => exact ih (nodup_apply nodup mark)

private theorem mem_apply (nodup : breakpoints.Nodup) (mark : Mark) :
    address ∈ apply breakpoints mark ↔
      mark = ⟨address, true⟩ ∨ address ∈ breakpoints ∧ mark ≠ ⟨address, false⟩ := by
  obtain ⟨place, isSet⟩ := mark
  cases isSet with
  | true =>
    simp only [apply, if_true, List.mem_insert_iff, Mark.mk.injEq, and_true, ne_eq,
      Bool.true_eq_false, and_false, not_false_eq_true, eq_comm (a := address)]
  | false =>
    simp only [apply, Bool.false_eq_true, if_false, nodup.mem_erase_iff, Mark.mk.injEq, and_false,
      false_or, and_true, ne_eq, eq_comm (a := address)]
    exact and_comm

private theorem stands_cons (mark : Mark) (rest : List Mark) :
    Stands (mark :: rest) address ↔
      Stands rest address ∨ mark = ⟨address, true⟩ ∧ ⟨address, false⟩ ∉ rest := by
  constructor
  · rintro ⟨earlier, later, same, kept⟩
    cases earlier with
    | nil =>
      cases same
      exact .inr ⟨rfl, kept⟩
    | cons first earlier =>
      cases same
      exact .inl ⟨earlier, later, rfl, kept⟩
  · rintro (⟨earlier, later, rfl, kept⟩ | ⟨rfl, kept⟩)
    · exact ⟨mark :: earlier, later, rfl, kept⟩
    · exact ⟨[], rest, rfl, kept⟩

/-- A breakpoint is among those that marks leave if it stands, or was there and not removed. -/
theorem mem_applyAll (nodup : breakpoints.Nodup) (marks : List Mark) :
    address ∈ applyAll breakpoints marks ↔
      Stands marks address ∨ address ∈ breakpoints ∧ ⟨address, false⟩ ∉ marks := by
  induction marks generalizing breakpoints with
  | nil => simp [applyAll, Stands]
  | cons mark rest ih =>
    have tail := ih (nodup_apply nodup mark)
    rw [applyAll, List.foldl_cons, ← applyAll, tail, mem_apply nodup, stands_cons]
    simp only [List.mem_cons, not_or, ne_eq, eq_comm (a := mark) (b := ⟨address, false⟩)]
    tauto

end Mark

namespace Session

/-- The mark that a command leaves. A halted machine heeds none, and without an address there is
nothing to mark. -/
def markOf? (session : Session) (command : Command) : Option Mark :=
  if session.console.isRunning then
    match command with
    | .break address =>
      (address.evaluate session.machine.registers).toOption.map fun address => ⟨address, true⟩
    | .unbreak address =>
      (address.evaluate session.machine.registers).toOption.map fun address => ⟨address, false⟩
    | _ => none
  else none

/-- The mark that a line leaves. -/
def mark? (session : Session) (line : String) : Option Mark :=
  (session.commandOf line).toOption.bind session.markOf?

/-- The marks that lines leave, up to the end of the session. -/
def marks (budget : Nat) (session : Session) : List String → List Mark
  | [] => []
  | line :: rest =>
    match session.answer budget line with
    | .reply reply => (session.mark? line).toList ++ reply.session.marks budget rest
    | .exit | .unfinished => []

variable {session : Session} {budget : Nat}

private theorem breakpoints_setBreakpoint (session : Session) (address : Address) :
    (session.setBreakpoint address).session.breakpoints =
      Mark.apply session.breakpoints ⟨address, true⟩ := by
  simp only [setBreakpoint, Mark.apply, if_true, List.insert]
  split <;> rfl

private theorem breakpoints_removeBreakpoint (session : Session) (address : Address) :
    (session.removeBreakpoint address).session.breakpoints =
      Mark.apply session.breakpoints ⟨address, false⟩ := by
  simp only [removeBreakpoint, Mark.apply, Bool.false_eq_true, if_false]
  split
  · rfl
  · next absent =>
    exact (List.erase_of_not_mem fun member => absent (List.contains_iff_mem.mpr member)).symm

private theorem breakpoints_withAddress (session : Session) (address : AddressExpr) (isSet : Bool)
    {action : Address → Reply}
    (marks : ∀ address, (action address).session.breakpoints =
      Mark.apply session.breakpoints ⟨address, isSet⟩) :
    (session.withAddress address action).session.breakpoints =
      Mark.applyAll session.breakpoints
        ((address.evaluate session.machine.registers).toOption.map (Mark.mk · isSet)).toList := by
  unfold withAddress
  cases address.evaluate session.machine.registers with
  | ok address => exact marks address
  | error problem => rfl

/-- Breakpoints change by the mark of a command, and by nothing else. -/
theorem breakpoints_execute? {command : Command} {reply : Reply}
    (executed : session.execute? budget command = some reply) :
    reply.session.breakpoints =
      Mark.applyAll session.breakpoints (session.markOf? command).toList := by
  cases running : session.console.isRunning with
  | false =>
    obtain ⟨other, listFrom, executed', left⟩ := execute?_of_halted running budget command
    cases executed.symm.trans executed'
    simp only [left, markOf?, running, Bool.false_eq_true, if_false]
    rfl
  | true =>
    simp only [markOf?, running, if_true]
    cases command with
    | exit | registers | memory | list | screen =>
      cases executed
      rfl
    | info topic => cases topic <;> cases executed <;> rfl
    | «break» address =>
      rw [execute?, unlessHalted_of_running running] at executed
      cases executed
      exact session.breakpoints_withAddress address true session.breakpoints_setBreakpoint
    | unbreak address =>
      rw [execute?, unlessHalted_of_running running] at executed
      cases executed
      exact session.breakpoints_withAddress address false session.breakpoints_removeBreakpoint
    | step count =>
      rw [execute?, unlessHalted_of_running running] at executed
      cases executed
      rfl
    | timers cycles =>
      rw [execute?, unlessHalted_of_running running] at executed
      cases executed
      rfl
    | set name value =>
      rw [execute?, unlessHalted_of_running running] at executed
      cases executed
      unfold setRegister
      split <;> rfl
    | key key pressed =>
      rw [execute?, unlessHalted_of_running running] at executed
      cases executed
      unfold setKey
      split <;> rfl
    | «continue» =>
      rw [execute?, unlessHalted_of_running running, continue?] at executed
      obtain ⟨result, -, rfl⟩ := Option.map_eq_some_iff.mp executed
      rfl

theorem breakpoints_answer {line : String} {reply : Reply}
    (replied : session.answer budget line = .reply reply) :
    reply.session.breakpoints =
      Mark.applyAll session.breakpoints (session.mark? line).toList := by
  unfold mark?
  cases asked : session.commandOf line with
  | error event =>
    rw [answer_of_unread asked] at replied
    cases replied
    rfl
  | ok command =>
    by_cases exits : command = .exit
    · rw [exits] at asked
      rw [answer_of_exit asked] at replied
      contradiction
    · rw [answer_of_asked asked exits] at replied
      split at replied
      · next executed =>
        cases replied
        have changed := breakpoints_execute? executed
        exact changed
      · contradiction

end Session

/-- The breakpoints of a transcript are those that the marks of its lines leave. -/
theorem Transcript.breakpoints_eq (budget : Nat) (session : Session) (lines : List String) :
    (ofLines budget session lines).session.breakpoints =
      Mark.applyAll session.breakpoints (session.marks budget lines) := by
  induction lines generalizing session with
  | nil => rfl
  | cons line rest ih =>
    unfold Session.marks
    cases replied : session.answer budget line with
    | exit =>
      rw [session_of_exit replied]
      rfl
    | unfinished =>
      rw [session_of_unfinished replied]
      rfl
    | reply reply =>
      rw [session_of_reply replied, ih, Session.breakpoints_answer replied, Mark.applyAll,
        Mark.applyAll, Mark.applyAll, List.foldl_append]

/-- In a session that began without breakpoints, those are set that were set and not removed
since, and each is noted once. -/
theorem Transcript.mem_breakpoints_iff (budget : Nat) (console : Console Terminal)
    (lines : List String) :
    let start : Session := { console }
    let breakpoints := (ofLines budget start lines).session.breakpoints
    breakpoints.Nodup ∧
      ∀ address, address ∈ breakpoints ↔ Mark.Stands (start.marks budget lines) address := by
  intro start breakpoints
  have left : breakpoints = Mark.applyAll [] (start.marks budget lines) :=
    breakpoints_eq budget start lines
  rw [left]
  refine ⟨Mark.nodup_applyAll List.nodup_nil _, fun address => ?_⟩
  rw [Mark.mem_applyAll List.nodup_nil]
  simp only [List.not_mem_nil, false_and, or_false]

namespace Session

variable {session : Session}

theorem mem_sortedBreakpoints {address : Address} :
    address ∈ session.sortedBreakpoints ↔ address ∈ session.breakpoints := List.mem_mergeSort

/-- Breakpoints that are noted once are shown once, from the lowest to the highest. -/
theorem pairwise_sortedBreakpoints (nodup : session.breakpoints.Nodup) :
    session.sortedBreakpoints.Pairwise (· < ·) := by
  have ascending : session.sortedBreakpoints.Pairwise (· ≤ ·) := by
    refine (List.pairwise_mergeSort ?_ ?_ session.breakpoints).imp of_decide_eq_true
    · intro low middle high below above
      exact decide_eq_true (UInt16.le_trans (of_decide_eq_true below) (of_decide_eq_true above))
    · intro left right
      exact Bool.or_eq_true_iff.mpr ((UInt16.le_total left right).imp decide_eq_true decide_eq_true)
  have distinct : session.sortedBreakpoints.Nodup := nodup.mergeSort
  exact (ascending.and distinct).imp fun both => UInt16.lt_of_le_of_ne both.1 both.2

end Session

end Chip8.Debugger
