import Chip8.Debugger.Continue

/-! # How far a free run goes

The number of a round says whether a timer cycle ends it, so a run is a fold over the numbers of its
rounds. `runFrom?_eq_some_iff` says where it stops: after the first round that gives a reason to,
whatever the bound beyond that round.
-/

namespace Chip8.Debugger

def rounds (console : Console Terminal) (numbers : List Nat) : Console Terminal :=
  numbers.foldl round console

@[simp] theorem rounds_cons (console : Console Terminal) (number : Nat) (rest : List Nat) :
    rounds console (number :: rest) = rounds (round console number) rest := rfl

/-- Rounds can be cut between any two of them. -/
theorem rounds_append (console : Console Terminal) (first second : List Nat) :
    rounds console (first ++ second) = rounds (rounds console first) second := List.foldl_append

/-- Why to stop after `count` rounds and one more, numbered from `number` on. -/
def stopAfter? (breakpoints : List Address) (console : Console Terminal) (number count : Nat) :
    Option Stop :=
  stop? breakpoints (rounds console (List.range' number count)).machine.registers.pc
    (rounds console (List.range' number (count + 1)))

section Runs

variable {breakpoints : List Address} {console : Console Terminal} {number budget : Nat}

private theorem stopAfter?_succ (count : Nat) :
    stopAfter? breakpoints console number (count + 1) =
      stopAfter? breakpoints (round console number) (number + 1) count := by
  simp only [stopAfter?, List.range'_succ, rounds_cons]

private theorem runFrom?_succ :
    runFrom? breakpoints console number (budget + 1) =
      match stopAfter? breakpoints console number 0 with
      | some stop => some (round console number, stop)
      | none => runFrom? breakpoints (round console number) (number + 1) budget := rfl

theorem runFrom?_of_goesOn {next : Console Terminal} (took : round console number = next)
    (goesOn : stop? breakpoints console.machine.registers.pc next = none) :
    runFrom? breakpoints console number (budget + 1) =
      runFrom? breakpoints next (number + 1) budget := by
  simp only [runFrom?, took, goesOn]

theorem runFrom?_of_stops {next : Console Terminal} {stop : Stop}
    (took : round console number = next)
    (stops : stop? breakpoints console.machine.registers.pc next = some stop) :
    runFrom? breakpoints console number (budget + 1) = some (next, stop) := by
  simp only [runFrom?, took, stops]

/-- A run stops with the first round that gives a reason to. -/
theorem runFrom?_eq_some_iff {final : Console Terminal} {stop : Stop} :
    runFrom? breakpoints console number budget = some (final, stop) ↔
      ∃ count < budget, final = rounds console (List.range' number (count + 1)) ∧
        stopAfter? breakpoints console number count = some stop ∧
        ∀ earlier < count, stopAfter? breakpoints console number earlier = none := by
  induction budget generalizing console number with
  | zero => simp [runFrom?]
  | succ budget ih =>
    -- The first round gives the reason, or the run goes on as one from the next number.
    cases first : stopAfter? breakpoints console number 0 with
    | some reason =>
      have stopped : runFrom? breakpoints console number (budget + 1) =
          some (round console number, reason) := by rw [runFrom?_succ, first]
      constructor
      · intro ran
        cases stopped.symm.trans ran
        exact ⟨0, Nat.zero_lt_succ _, rfl, first, fun _ before => absurd before (Nat.not_lt_zero _)⟩
      · rintro ⟨count, -, rfl, last, none⟩
        cases count with
        | zero =>
          cases first.symm.trans last
          exact stopped
        | succ count => cases first.symm.trans (none 0 (Nat.zero_lt_succ _))
    | none =>
      rw [runFrom?_succ, first, ih]
      constructor
      · rintro ⟨count, within, rfl, last, earlier⟩
        refine ⟨count + 1, Nat.succ_lt_succ within, rfl, (stopAfter?_succ count).trans last, ?_⟩
        intro place before
        cases place with
        | zero => exact first
        | succ place =>
          rw [stopAfter?_succ]
          exact earlier place (Nat.lt_of_succ_lt_succ before)
      · rintro ⟨count, within, rfl, last, earlier⟩
        cases count with
        | zero => cases first.symm.trans last
        | succ count =>
          refine ⟨count, Nat.lt_of_succ_lt_succ within, rfl,
            (stopAfter?_succ count).symm.trans last, fun place before => ?_⟩
          rw [← stopAfter?_succ]
          exact earlier (place + 1) (Nat.succ_lt_succ before)

/-- A run goes on beyond its bound if no round within it gives a reason to stop. -/
theorem runFrom?_eq_none_iff :
    runFrom? breakpoints console number budget = none ↔
      ∀ count < budget, stopAfter? breakpoints console number count = none := by
  constructor
  · intro goesOn count within
    induction count using Nat.strongRecOn with
    | ind count ih =>
      cases last : stopAfter? breakpoints console number count with
      | none => rfl
      | some stop =>
        have stopped := runFrom?_eq_some_iff.mpr
          ⟨count, within, rfl, last, fun earlier before => ih earlier before (by omega)⟩
        cases goesOn.symm.trans stopped
  · intro silent
    cases ran : runFrom? breakpoints console number budget with
    | none => rfl
    | some result =>
      obtain ⟨count, within, -, last, -⟩ := runFrom?_eq_some_iff.mp ran
      cases (silent count within).symm.trans last

end Runs

end Chip8.Debugger
