import Chip8.Listing
import Mathlib.Data.List.Basic

/-! # What a listing covers

A listing goes on from its origin in steps of two until the program or the address space ends. The
line at every position is given by `getElem?_ofProgram`, whatever the length of the program and its
origin, and `covers_program` is the result: no byte below the top is skipped or listed twice, and
nothing wraps around.
-/

namespace Chip8.Listing

/-- How many of the addresses from `start` on, every second one, sixteen bits can hold. -/
def capacity (start : Address) : Nat := (65535 - start.toNat) / 2 + 1

/-- The word that a program has at a position, a missing last byte being zero. -/
def wordAt (program : List UInt8) (index : Nat) : Word :=
  wordOf (program[2 * index]?.getD 0) (program[2 * index + 1]?.getD 0)

private theorem toNat_wordOf (high low : UInt8) :
    (wordOf high low).toNat = 256 * high.toNat + low.toNat := by
  have shifted : high.toNat <<< 8 % 65536 = high.toNat <<< 8 := by
    have bound := high.toNat_lt
    rw [Nat.shiftLeft_eq]
    omega
  simp only [wordOf, UInt16.toNat_or, UInt16.toNat_shiftLeft, UInt8.toNat_toUInt16,
    UInt16.reduceToNat, Nat.reduceMod, Nat.reducePow, shifted]
  rw [← Nat.shiftLeft_add_eq_or_of_lt low.toNat_lt, Nat.shiftLeft_eq]
  omega

private theorem wordOf_injective {high low otherHigh otherLow : UInt8}
    (same : wordOf high low = wordOf otherHigh otherLow) : high = otherHigh ∧ low = otherLow := by
  have sum := congrArg UInt16.toNat same
  rw [toNat_wordOf, toNat_wordOf] at sum
  have lowBound := low.toNat_lt
  have otherBound := otherLow.toNat_lt
  exact ⟨UInt8.toNat_inj.mp (by omega), UInt8.toNat_inj.mp (by omega)⟩

/-- The addresses are an arithmetic progression that stops below the top. -/
theorem addresses_eq (start : Address) (count : Nat) :
    addresses start count =
      (List.range (min count (capacity start))).map
        fun index => UInt16.ofNat (start.toNat + 2 * index) := by
  have bound := start.toNat_lt
  have size : UInt16.size = 65536 := rfl
  unfold capacity
  induction count with
  | zero => rfl
  | succ count ih =>
    have step : addresses start (count + 1) = addresses start count ++
        [start.toNat + 2 * count].filterMap fun place =>
          if place < UInt16.size then some place.toUInt16 else none := by
      rw [addresses, addresses, List.range_succ, List.map_append, List.filterMap_append,
        List.map_singleton]
    rw [step, ih]
    by_cases inside : start.toNat + 2 * count < UInt16.size
    · simp only [List.filterMap_cons, List.filterMap_nil, inside, if_true]
      rw [Nat.min_eq_left (by omega), Nat.min_eq_left (by omega), List.range_succ,
        List.map_append, List.map_singleton]
    · simp only [List.filterMap_cons, List.filterMap_nil, inside, if_false, List.append_nil]
      rw [Nat.min_eq_right (by omega), Nat.min_eq_right (by omega)]

@[simp] theorem length_addresses (start : Address) (count : Nat) :
    (addresses start count).length = min count (capacity start) := by
  rw [addresses_eq, List.length_map, List.length_range]

private theorem getElem?_addresses (start : Address) (count index : Nat) :
    (addresses start count)[index]? =
      if index < min count (capacity start) then some (UInt16.ofNat (start.toNat + 2 * index))
      else none := by
  rw [addresses_eq, List.getElem?_map]
  split
  · next inside => rw [List.getElem?_range inside, Option.map_some]
  · next outside =>
    rw [List.getElem?_eq_none, Option.map_none]
    rw [List.length_range]
    exact Nat.le_of_not_lt outside

/-- A listed address is the start of its line as a number, too: it has not wrapped. -/
theorem toNat_of_lt_capacity {start : Address} {index : Nat} (inside : index < capacity start) :
    (UInt16.ofNat (start.toNat + 2 * index)).toNat = start.toNat + 2 * index := by
  have bound := start.toNat_lt
  unfold capacity at inside
  rw [UInt16.toNat_ofNat']
  exact Nat.mod_eq_of_lt (by omega)

private theorem getElem?_words (program : List UInt8) (index : Nat) :
    (words program)[index]? =
      if 2 * index < program.length then some (wordAt program index) else none := by
  fun_induction words program generalizing index with
  | case1 => rfl
  | case2 high =>
    cases index with
    | zero | succ => rfl
  | case3 high low rest ih =>
    cases index with
    | zero => rfl
    | succ index =>
      rw [List.getElem?_cons_succ, ih]
      simp only [List.length_cons, wordAt, Nat.mul_succ, List.getElem?_cons_succ]
      by_cases inside : 2 * index < rest.length
      · rw [if_pos inside, if_pos (by omega)]
      · rw [if_neg inside, if_neg (by omega)]

/-- Programs of one length agree if all their words do. -/
theorem eq_of_wordAt_eq {left right : List UInt8} (length : left.length = right.length)
    (same : ∀ index, 2 * index < left.length → wordAt left index = wordAt right index) :
    left = right := by
  apply List.ext_getElem length
  intro place inLeft inRight
  obtain ⟨high, low⟩ := wordOf_injective (same (place / 2) (by omega))
  obtain even | odd : 2 * (place / 2) = place ∨ 2 * (place / 2) + 1 = place := by omega
  · rw [even, List.getElem?_eq_getElem inLeft, List.getElem?_eq_getElem inRight] at high
    exact high
  · rw [odd, List.getElem?_eq_getElem inLeft, List.getElem?_eq_getElem inRight] at low
    exact low

/-- The line at every position of a listing. -/
theorem getElem?_ofProgram (program : List UInt8) (origin : Address) (index : Nat) :
    (ofProgram program origin)[index]? =
      if index < min ((program.length + 1) / 2) (capacity origin) then
        some (.ofWord (UInt16.ofNat (origin.toNat + 2 * index)) (wordAt program index))
      else none := by
  rw [ofProgram, List.getElem?_zipWith, getElem?_addresses, getElem?_words, length_words]
  by_cases inside : index < min ((program.length + 1) / 2) (capacity origin)
  · have written : 2 * index < program.length := by omega
    simp only [inside, written, if_true]
  · simp only [inside, if_false]

@[simp] theorem length_ofProgram (program : List UInt8) (origin : Address) :
    (ofProgram program origin).length = min ((program.length + 1) / 2) (capacity origin) := by
  simp only [ofProgram, List.length_zipWith, length_addresses, length_words]
  omega

/-- Whether a line lists a byte: as the high half of its word at its own address, or as the low half
at the address behind. -/
def Line.Lists (line : Line) (address : Nat) (byte : UInt8) : Prop :=
  line.address.toNat = address ∧ line.word.toNat / 256 = byte.toNat ∨
    line.address.toNat + 1 = address ∧ line.word.toNat % 256 = byte.toNat

/-- The halves of a word are the bytes of the program at its place. -/
theorem toNat_wordAt (program : List UInt8) (index : Nat) :
    (wordAt program index).toNat =
      256 * (program[2 * index]?.getD 0).toNat + (program[2 * index + 1]?.getD 0).toNat :=
  toNat_wordOf ..

/-- A listed line stands at its own address, which has not wrapped, and shows the word there. -/
theorem eq_of_getElem?_ofProgram {program : List UInt8} {origin : Address} {index : Nat}
    {line : Line} (listed : (ofProgram program origin)[index]? = some line) :
    line.address.toNat = origin.toNat + 2 * index ∧ line.word = wordAt program index ∧
      line.instruction = Instruction.decode? line.word ∧ 2 * index < program.length := by
  rw [getElem?_ofProgram] at listed
  split at listed
  · next inside =>
    cases listed
    have low := Nat.lt_of_lt_of_le inside (Nat.min_le_right ..)
    have written := Nat.lt_of_lt_of_le inside (Nat.min_le_left ..)
    exact ⟨toNat_of_lt_capacity low, rfl, rfl, by omega⟩
  · contradiction

/-- A byte is listed by the line of its pair. -/
theorem lists_of_getElem? {program : List UInt8} {origin : Address} {place : Nat} {byte : UInt8}
    {line : Line} (written : program[place]? = some byte)
    (listed : (ofProgram program origin)[place / 2]? = some line) :
    line.Lists (origin.toNat + place) byte := by
  obtain ⟨address, word, -, -⟩ := eq_of_getElem?_ofProgram listed
  obtain even | odd : 2 * (place / 2) = place ∨ 2 * (place / 2) + 1 = place := by omega
  · refine .inl ⟨by omega, ?_⟩
    rw [word, toNat_wordAt, even, written, Option.getD_some]
    have := (program[place + 1]?.getD 0).toNat_lt
    omega
  · refine .inr ⟨by omega, ?_⟩
    rw [word, toNat_wordAt, odd, written, Option.getD_some]
    have := byte.toNat_lt
    omega

/-- A program is listed word by word from its origin on until it or the address space ends. Each
line has the address of its word and the instruction that the word decodes to, and the first byte
of the word is always one of the program. So each byte that has an address is listed by exactly one
line, and what is left of a program at the top is cut off. -/
theorem covers_program (program : List UInt8) (origin : Address) :
    let listing := ofProgram program origin
    listing.length = min ((program.length + 1) / 2) ((65535 - origin.toNat) / 2 + 1) ∧
    (∀ (index : Nat) line, listing[index]? = some line →
      line.address.toNat = origin.toNat + 2 * index ∧
      (∃ high, program[2 * index]? = some high ∧
        line.word.toNat = 256 * high.toNat + (program[2 * index + 1]?.getD 0).toNat) ∧
      line.instruction = Instruction.decode? line.word) ∧
    ∀ place byte, program[place]? = some byte → origin.toNat + place ≤ 65535 →
      ∃! index : Nat, ∃ line, listing[index]? = some line ∧
        line.Lists (origin.toNat + place) byte := by
  intro listing
  have length : listing.length = min ((program.length + 1) / 2) (capacity origin) :=
    length_ofProgram program origin
  refine ⟨length, ?_, ?_⟩
  · intro index line listed
    obtain ⟨address, word, decoded, inside⟩ := eq_of_getElem?_ofProgram listed
    refine ⟨address, ⟨_, List.getElem?_eq_getElem inside, ?_⟩, decoded⟩
    rw [word, toNat_wordAt, List.getElem?_eq_getElem inside, Option.getD_some]
  · intro place byte written below
    have short : place < program.length := (List.getElem?_eq_some_iff.mp written).1
    have bound := origin.toNat_lt
    have reached : place / 2 < listing.length := by
      rw [length, capacity]
      omega
    have listed := List.getElem?_eq_getElem reached
    refine ⟨place / 2, ⟨_, listed, lists_of_getElem? written listed⟩, ?_⟩
    rintro other ⟨line, found, lists⟩
    obtain ⟨address, -⟩ := eq_of_getElem?_ofProgram found
    rcases lists with ⟨same, -⟩ | ⟨same, -⟩
    · omega
    · omega

end Chip8.Listing
