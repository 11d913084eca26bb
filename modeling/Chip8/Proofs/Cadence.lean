import Chip8.Schedule
import Mathlib.Algebra.Group.Nat.Defs
import Mathlib.Data.List.Chain

/-! # Cadences on a counter that wraps around

A cadence is asked at readings of a counter of thirty-two bits, which shows the low bits of the true
time. An ideal cadence is asked at the true times and keeps the time of its last firing in full.
`answers_eq_ideal` says that nobody can tell the two apart while questions are close enough: the
time since the last firing is less than a period at each question, so what has passed at the next
one still fits the counter if the step between the two leaves room for a period. What holds of an
ideal cadence is then true of the other, however often the counter wraps around.
-/

namespace Chip8

/-- The times at which questions were asked that were answered with a firing. -/
def firings (times : List Nat) (answers : List Bool) : List Nat :=
  (times.zip answers).filterMap fun (time, fired) => if fired then some time else none

@[simp] theorem firings_fired (time : Nat) (times : List Nat) (answers : List Bool) :
    firings (time :: times) (true :: answers) = time :: firings times answers := rfl

@[simp] theorem firings_silent (time : Nat) (times : List Nat) (answers : List Bool) :
    firings (time :: times) (false :: answers) = firings times answers := rfl

/-- A cadence on a clock without end. -/
structure IdealCadence where
  period : Nat
  lastFired : Nat := 0
deriving DecidableEq, Repr

namespace IdealCadence

def fire (ideal : IdealCadence) (now : Nat) : Bool × IdealCadence :=
  if ideal.period ≤ now - ideal.lastFired then (true, { ideal with lastFired := now })
  else (false, ideal)

def answers (ideal : IdealCadence) : List Nat → List Bool
  | [] => []
  | now :: rest => (ideal.fire now).1 :: (ideal.fire now).2.answers rest

private theorem fire_of_due {ideal : IdealCadence} {now : Nat}
    (due : ideal.period ≤ now - ideal.lastFired) :
    ideal.fire now = (true, { ideal with lastFired := now }) := if_pos due

private theorem fire_of_early {ideal : IdealCadence} {now : Nat}
    (early : ¬ideal.period ≤ now - ideal.lastFired) : ideal.fire now = (false, ideal) :=
  if_neg early

private theorem answers_of_due {ideal : IdealCadence} {now : Nat}
    (due : ideal.period ≤ now - ideal.lastFired) (rest : List Nat) :
    ideal.answers (now :: rest) = true :: answers { ideal with lastFired := now } rest := by
  rw [answers, fire_of_due due]

private theorem answers_of_early {ideal : IdealCadence} {now : Nat}
    (early : ¬ideal.period ≤ now - ideal.lastFired) (rest : List Nat) :
    ideal.answers (now :: rest) = false :: ideal.answers rest := by
  rw [answers, fire_of_early early]

/-- Between any two firings a whole period passes, and before the first one too. -/
theorem firings_pairwise (ideal : IdealCadence) (positive : 0 < ideal.period) (times : List Nat) :
    (ideal.lastFired :: firings times (ideal.answers times)).Pairwise
      fun earlier later => earlier + ideal.period ≤ later := by
  induction times generalizing ideal with
  | nil => exact List.pairwise_singleton _ _
  | cons now rest ih =>
    by_cases due : ideal.period ≤ now - ideal.lastFired
    · have spaced := ih { ideal with lastFired := now } positive
      have first : ideal.lastFired + ideal.period ≤ now := by omega
      rw [answers_of_due due, firings_fired]
      refine List.pairwise_cons.mpr ⟨fun later member => ?_, spaced⟩
      rcases List.mem_cons.mp member with rfl | member
      · exact first
      · have second := List.rel_of_pairwise_cons spaced member
        dsimp only at second
        omega
    · rw [answers_of_early due, firings_silent]
      exact ih ideal positive

/-- A question is answered with a firing just when a period has passed since the last one. -/
theorem getElem?_answers (ideal : IdealCadence) (past : List Nat) (now : Nat) (future : List Nat) :
    (ideal.answers (past ++ now :: future))[past.length]? =
      some (decide (ideal.period ≤
        now - (firings past (ideal.answers past)).getLast?.getD ideal.lastFired)) := by
  induction past generalizing ideal with
  | nil =>
    by_cases due : ideal.period ≤ now - ideal.lastFired
    · rw [List.nil_append, answers_of_due due]
      exact congrArg some (decide_eq_true due).symm
    · rw [List.nil_append, answers_of_early due]
      exact congrArg some (decide_eq_false due).symm
  | cons time rest ih =>
    simp only [List.cons_append, List.length_cons]
    by_cases due : ideal.period ≤ time - ideal.lastFired
    · simp only [answers_of_due due, List.getElem?_cons_succ, ih, firings_fired,
        List.getLast?_cons, Option.getD_some]
    · simp only [answers_of_early due, List.getElem?_cons_succ, ih, firings_silent]

end IdealCadence

/-- Times that are spaced by a period after a start come no faster than one a period. -/
theorem countP_mul_le {start period : Nat} (positive : 0 < period) {times : List Nat}
    (spaced : (start :: times).Pairwise fun earlier later => earlier + period ≤ later)
    (bound : Nat) : times.countP (· ≤ bound) * period ≤ bound - start := by
  induction times generalizing start with
  | nil =>
    rw [List.countP_nil, Nat.zero_mul]
    exact Nat.zero_le _
  | cons time rest ih =>
    obtain ⟨after, tail⟩ := List.pairwise_cons.mp spaced
    have first : start + period ≤ time := after time (List.mem_cons_self ..)
    have others := ih tail
    by_cases early : time ≤ bound
    · rw [List.countP_cons_of_pos (by simpa using early), Nat.succ_mul]
      omega
    · rw [List.countP_cons_of_neg (by simpa using early)]
      omega

namespace Cadence

/-- A cadence that was just made, or reset. -/
inductive Fresh : Cadence → Prop
  | made (frequency : Nat) : Fresh (ofFrequency frequency)
  | reset (cadence : Cadence) : Fresh cadence.reset

private theorem Fresh.lastFired {cadence : Cadence} (fresh : cadence.Fresh) :
    cadence.lastFired = 0 := by
  cases fresh with
  | made frequency => rfl
  | reset cadence => rfl

/-- The answers at some readings of the counter in turn. -/
def answers (cadence : Cadence) : List UInt32 → List Bool
  | [] => []
  | now :: rest => (cadence.fire now).1 :: (cadence.fire now).2.answers rest

/-- The difference of two readings is the time between them, as long as that fits the counter. -/
theorem toNat_sub_of_near {last now : Nat} (past : last ≤ now) (near : now < last + 2 ^ 32) :
    (UInt32.ofNat now - UInt32.ofNat last).toNat = now - last := by
  rw [UInt32.toNat_sub, UInt32.toNat_ofNat', UInt32.toNat_ofNat']
  omega

theorem isDue_of_near {cadence : Cadence} {last now : Nat}
    (fired : cadence.lastFired = UInt32.ofNat last) (past : last ≤ now)
    (near : now < last + 2 ^ 32) :
    cadence.isDue (UInt32.ofNat now) = decide (cadence.period.toNat ≤ now - last) := by
  rw [isDue, fired, decide_eq_decide, UInt32.le_iff_toNat_le, toNat_sub_of_near past near]

/-- A cadence and an ideal one that have last fired at the same time, less than a period ago. -/
structure Tracks (cadence : Cadence) (ideal : IdealCadence) (time : Nat) : Prop where
  period : ideal.period = cadence.period.toNat
  lastFired : cadence.lastFired = UInt32.ofNat ideal.lastFired
  past : ideal.lastFired ≤ time
  recent : time < ideal.lastFired + cadence.period.toNat

/-- Times that never go back, and after each of which a period still fits the counter. -/
def Paced (cadence : Cadence) (times : List Nat) : Prop :=
  times.IsChain fun earlier later =>
    earlier ≤ later ∧ later - earlier ≤ 2 ^ 32 - cadence.period.toNat

section Tracking

variable {cadence : Cadence} {ideal : IdealCadence} {time now : Nat}

/-- One question is answered alike, and leaves both as they were related. -/
theorem Tracks.fire (tracks : cadence.Tracks ideal time) (forward : time ≤ now)
    (near : now - time ≤ 2 ^ 32 - cadence.period.toNat) :
    (cadence.fire (UInt32.ofNat now)).1 = (ideal.fire now).1 ∧
      (cadence.fire (UInt32.ofNat now)).2.Tracks (ideal.fire now).2 now := by
  obtain ⟨period, lastFired, past, recent⟩ := tracks
  have width := cadence.period.toNat_lt
  have past' : ideal.lastFired ≤ now := by omega
  have fits : now < ideal.lastFired + 2 ^ 32 := by omega
  have due := isDue_of_near lastFired past' fits
  rw [← period] at due
  by_cases passed : ideal.period ≤ now - ideal.lastFired
  · rw [decide_eq_true passed] at due
    rw [Cadence.fire, if_pos due, ideal.fire_of_due passed]
    have positive : 0 < cadence.period.toNat := by omega
    exact ⟨rfl, period, rfl, Nat.le_refl now, Nat.lt_add_of_pos_right positive⟩
  · rw [decide_eq_false passed] at due
    have early : ¬cadence.isDue (UInt32.ofNat now) = true := by
      rw [due]
      exact Bool.false_ne_true
    rw [Cadence.fire, if_neg early, ideal.fire_of_early passed]
    have recent' : now < ideal.lastFired + cadence.period.toNat := by omega
    exact ⟨rfl, period, lastFired, past', recent'⟩

/-- Questions that are paced are answered alike. -/
theorem Tracks.answers {times : List Nat} (tracks : cadence.Tracks ideal time)
    (paced : cadence.Paced (time :: times)) :
    cadence.answers (times.map UInt32.ofNat) = ideal.answers times := by
  induction times generalizing cadence ideal time with
  | nil => rfl
  | cons now rest ih =>
    obtain ⟨⟨forward, near⟩, tail⟩ := List.isChain_cons_cons.mp paced
    obtain ⟨same, tracks'⟩ := tracks.fire forward near
    have paced' : (cadence.fire (UInt32.ofNat now)).2.Paced (now :: rest) := by
      rw [Paced, fire_period]
      exact tail
    rw [List.map_cons, Cadence.answers, IdealCadence.answers, same, ih tracks' paced']

theorem Fresh.tracks (fresh : cadence.Fresh) (positive : 0 < cadence.period) :
    cadence.Tracks ⟨cadence.period.toNat, 0⟩ 0 where
  period := rfl
  lastFired := fresh.lastFired
  past := Nat.le_refl 0
  recent := by
    rw [Nat.zero_add]
    exact UInt32.lt_iff_toNat_lt.mp positive

end Tracking

/-- A cadence that starts at time zero and is asked at times that are paced answers as the ideal
cadence of its period. So its firings are a period apart, no more of them happen by a time than
periods fit into it, and a question is answered with a firing just when a period has passed since
the last one. -/
theorem answers_eq_ideal {cadence : Cadence} (fresh : cadence.Fresh)
    (positive : 0 < cadence.period) {times : List Nat} (paced : cadence.Paced (0 :: times)) :
    let period := cadence.period.toNat
    let answers := cadence.answers (times.map UInt32.ofNat)
    answers = (IdealCadence.mk period 0).answers times ∧
      (firings times answers).Pairwise (fun earlier later => earlier + period ≤ later) ∧
      (∀ bound, (firings times answers).countP (· ≤ bound) ≤ bound / period) ∧
      ∀ past now future, times = past ++ now :: future →
        let before := firings past (cadence.answers (past.map UInt32.ofNat))
        answers[past.length]? = some (decide (period ≤ now - before.getLast?.getD 0)) := by
  intro period answers
  have same : answers = (IdealCadence.mk period 0).answers times :=
    (fresh.tracks positive).answers paced
  have positive' : 0 < period := UInt32.lt_iff_toNat_lt.mp positive
  have spaced := (IdealCadence.mk period 0).firings_pairwise positive' times
  rw [← same] at spaced
  refine ⟨same, (List.pairwise_cons.mp spaced).2, fun bound => ?_, ?_⟩
  · exact (Nat.le_div_iff_mul_le positive').mpr (countP_mul_le positive' spaced bound)
  · rintro past now future rfl before
    have paced' : cadence.Paced (0 :: past) := List.IsChain.left_of_append paced
    have same' := (fresh.tracks positive).answers paced'
    have asked := (IdealCadence.mk period 0).getElem?_answers past now future
    rwa [← same, ← same'] at asked

/-- A cadence of two milliseconds that is first asked when the counter is about to wrap around. -/
theorem answers_eq_ideal_wrapping :
    (ofFrequency 500).Fresh ∧ 0 < (ofFrequency 500).period ∧
      (ofFrequency 500).Paced [0, 2 ^ 32 - 2, 2 ^ 32 - 1, 2 ^ 32, 2 ^ 33 - 2] ∧
      (ofFrequency 500).answers [0xFFFFFFFE, 0xFFFFFFFF, 0, 0xFFFFFFFE] =
        [true, false, true, true] := by
  have fresh : (ofFrequency 500).Fresh := .made 500
  have positive : 0 < (ofFrequency 500).period := by decide
  have paced : (ofFrequency 500).Paced [0, 2 ^ 32 - 2, 2 ^ 32 - 1, 2 ^ 32, 2 ^ 33 - 2] := by
    simp only [Paced, List.isChain_cons_cons, List.isChain_singleton]
    decide
  have same := (answers_eq_ideal fresh positive paced).1
  exact ⟨fresh, positive, paced, same.trans (by decide)⟩

/-- One millisecond more between two questions, and the difference of readings starts over. -/
example : (ofFrequency 60).answers [15, UInt32.ofNat (15 + (2 ^ 32 - 15))] = [false, false] ∧
    (IdealCadence.mk 16 0).answers [15, 15 + (2 ^ 32 - 15)] = [false, true] := by decide

end Cadence

end Chip8
