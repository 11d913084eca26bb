import Chip8.Proofs.TickOrder

/-! # How often a host is polled

A poll asks the host once, and nothing else that a machine does asks it. So a recorded host is asked
as often along a run as there are polls in its history: `Chain.countP_isPoll`.
-/

namespace Chip8

universe u

variable {η : Type u}

def Call.isPoll : Call → Bool
  | .poll _ => true
  | _ => false

private theorem Draws.countP_isPoll {calls : List Call} (drawn : Draws calls) :
    calls.countP Call.isPoll = 0 := by
  refine List.countP_eq_zero.mpr fun call member => ?_
  obtain ⟨x, y, lit, rfl⟩ | rfl := drawn.draw_or_update member <;> exact Bool.false_ne_true

namespace Machine

variable [Host η] (machine : Machine) (host : Recorded η)

private theorem pollInput_countP_isPoll :
    (machine.pollInput host).2.calls.toList.countP Call.isPoll =
      host.calls.toList.countP Call.isPoll + 1 := by
  obtain ⟨made, calls, ⟨rfl, -⟩ | ⟨fault, rfl, -⟩⟩ := machine.pollInput_calls host <;>
    rw [calls, List.countP_append] <;> rfl

private theorem step_countP_isPoll :
    (machine.step host).2.calls.toList.countP Call.isPoll =
      host.calls.toList.countP Call.isPoll := by
  obtain ⟨made, calls, drawn | ⟨fault, rfl, -⟩⟩ := machine.step_order host
  · rw [calls, List.countP_append, drawn.countP_isPoll, Nat.add_zero]
  · rw [calls, List.countP_append]
    rfl

private theorem tickTimers_countP_isPoll :
    (machine.tickTimers host).2.calls.toList.countP Call.isPoll =
      host.calls.toList.countP Call.isPoll := by
  have none : (machine.soundCalls ++ machine.clearCalls).countP Call.isPoll = 0 := by
    unfold soundCalls clearCalls
    split <;> split <;> rfl
  rw [tickTimers_calls, List.countP_append, none, Nat.add_zero]

private theorem load_countP_isPoll (program : List UInt8) (dialect : Dialect) :
    (machine.load host program dialect).2.calls.toList.countP Call.isPoll =
      host.calls.toList.countP Call.isPoll := by
  simp only [load]
  split
  · rfl
  · rw [halt_calls, List.countP_append]
    rfl

end Machine

theorem Moment.countP_isPoll [Host η] (moment : Moment (Recorded η)) :
    moment.after.2.calls.toList.countP Call.isPoll =
      moment.host.calls.toList.countP Call.isPoll + if moment.activity == .poll then 1 else 0 := by
  obtain ⟨activity, machine, host⟩ := moment
  cases activity with
  | load program dialect => exact machine.load_countP_isPoll host program dialect
  | poll => exact machine.pollInput_countP_isPoll host
  | step => exact machine.step_countP_isPoll host
  | cycle => exact machine.tickTimers_countP_isPoll host
  | pause paused => rfl
  | stop => rfl

theorem Chain.countP_isPoll [Host η] {start final : Machine × Recorded η}
    {moments : List (Moment (Recorded η))} (chain : Chain start moments final) :
    final.2.calls.toList.countP Call.isPoll =
      start.2.calls.toList.countP Call.isPoll + (moments.map Moment.activity).count .poll := by
  induction chain with
  | nil => rfl
  | @cons moment rest final running tail ih =>
    have same : moment.before.2 = moment.host := rfl
    rw [ih, moment.countP_isPoll, same, List.map_cons, List.count_cons, Nat.add_right_comm,
      Nat.add_assoc]

end Chip8
