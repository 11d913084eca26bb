import Chip8.Text.Digits
import Mathlib.Data.List.Induction

/-! # The number that digits write

Strings of digits as a grammar of its own, one digit after the other, against the function that
computes their value. The main statements are that the two agree, `digitString_iff`, that a number
can be read back from its digits whatever zeros stand in front, `digitsValue_digits`, and which
texts a byte is read from, `byteOfHex?_eq_some_iff`.
-/

namespace Chip8.Text

/-- A character that writes a digit of a base, in either case. -/
def WritesDigit (base : Nat) (c : Char) (digit : Nat) : Prop :=
  digit < base ∧ (c = Nat.digitChar digit ∨ c = upperHexDigit digit)

/-- One or more digits of a base, the last one counting once, and the number they write. -/
inductive DigitString (base : Nat) : List Char → Nat → Prop where
  | one {c : Char} {digit : Nat} (last : WritesDigit base c digit) : DigitString base [c] digit
  | snoc {text : List Char} {value : Nat} {c : Char} {digit : Nat}
      (front : DigitString base text value) (last : WritesDigit base c digit) :
      DigitString base (text ++ [c]) (base * value + digit)

/-- A test of characters that accepts the digits of a base and nothing else. -/
def Recognizes (base : Nat) (isDigit : Char → Bool) : Prop :=
  ∀ c, isDigit c = true ↔ ∃ digit, WritesDigit base c digit

section Recognition

variable {base : Nat} {isDigit : Char → Bool}

/-- The accepted characters need only be compared where they lie. -/
theorem recognizes_of_table (ascii : ∀ c, isDigit c = true → c.toNat < 128)
    (only : ∀ point < 128, isDigit (Char.ofNat point) = true →
      ∃ digit < base,
        Char.ofNat point = Nat.digitChar digit ∨ Char.ofNat point = upperHexDigit digit)
    (every : ∀ digit < base,
      isDigit (Nat.digitChar digit) = true ∧ isDigit (upperHexDigit digit) = true) :
    Recognizes base isDigit := by
  intro c
  constructor
  · intro accepted
    have found := only c.toNat (ascii c accepted)
    rw [Char.ofNat_toNat] at found
    exact found accepted
  · rintro ⟨digit, small, rfl | rfl⟩
    · exact (every digit small).1
    · exact (every digit small).2

theorem recognizes_isDigit : Recognizes 10 Char.isDigit := by
  refine recognizes_of_table (fun c accepted => ?_) (by decide +kernel) (by decide)
  simp only [Char.isDigit, Bool.and_eq_true, decide_eq_true_eq, ge_iff_le] at accepted
  have above := UInt32.le_iff_toNat_le.mp accepted.2
  exact Nat.lt_of_le_of_lt above (by decide)

theorem recognizes_isBinaryDigit : Recognizes 2 isBinaryDigit := by
  refine recognizes_of_table (fun c accepted => ?_) (by decide +kernel) (by decide)
  simp only [isBinaryDigit, Bool.or_eq_true, beq_iff_eq] at accepted
  obtain rfl | rfl := accepted <;> decide

theorem recognizes_isHexDigit : Recognizes 16 isHexDigit := by
  refine recognizes_of_table (fun c accepted => ?_) (by decide +kernel) (by decide)
  simp only [isHexDigit, Bool.or_eq_true, Bool.and_eq_true, decide_eq_true_eq] at accepted
  obtain (decimal | lower) | upper := accepted
  · obtain ⟨digit, small, rfl | rfl⟩ := (recognizes_isDigit c).mp decimal <;>
      · revert digit
        decide
  · exact Nat.lt_of_le_of_lt (UInt32.le_iff_toNat_le.mp lower.2) (by decide)
  · exact Nat.lt_of_le_of_lt (UInt32.le_iff_toNat_le.mp upper.2) (by decide)

end Recognition

theorem digitValue_of_writesDigit {base digit : Nat} {c : Char} (atMost : base ≤ 16)
    (writes : WritesDigit base c digit) : digitValue c = digit := by
  have table : ∀ digit < 16,
      digitValue (Nat.digitChar digit) = digit ∧ digitValue (upperHexDigit digit) = digit := by
    decide
  obtain ⟨small, rfl | rfl⟩ := writes
  · exact (table digit (Nat.lt_of_lt_of_le small atMost)).1
  · exact (table digit (Nat.lt_of_lt_of_le small atMost)).2

@[simp] theorem digitsValue_concat (base : Nat) (text : List Char) (c : Char) :
    digitsValue base (text ++ [c]) = base * digitsValue base text + digitValue c := by
  simp [digitsValue]

/-- The strings of digits are the nonempty ones of accepted characters, with their value. -/
theorem digitString_iff {base value : Nat} {isDigit : Char → Bool} {text : List Char}
    (recognizes : Recognizes base isDigit) (atMost : base ≤ 16) :
    DigitString base text value ↔
      text ≠ [] ∧ (∀ c ∈ text, isDigit c = true) ∧ digitsValue base text = value := by
  constructor
  · intro written
    induction written with
    | one last =>
      have accepted := (recognizes _).mpr ⟨_, last⟩
      have counted := digitValue_of_writesDigit atMost last
      simp [digitsValue, accepted, counted]
    | snoc front last ih =>
      have accepted := (recognizes _).mpr ⟨_, last⟩
      have counted := digitValue_of_writesDigit atMost last
      refine ⟨by simp, ?_, by rw [digitsValue_concat, ih.2.2, counted]⟩
      intro c member
      obtain earlier | rfl : c ∈ _ ∨ c = _ := by simpa using member
      · exact ih.2.1 c earlier
      · exact accepted
  · rintro ⟨nonempty, accepted, rfl⟩
    -- The grammar grows at the end, where the fold over the digits does its last step.
    induction text using List.reverseRecOn with
    | nil => contradiction
    | append_singleton front c ih =>
      obtain ⟨digit, last⟩ := (recognizes c).mp (accepted c (by simp))
      have counted := digitValue_of_writesDigit atMost last
      rw [digitsValue_concat, counted]
      by_cases empty : front = []
      · subst empty
        simpa [digitsValue] using DigitString.one last
      · exact .snoc (ih empty fun other member => accepted other (by simp [member])) last

section Printing

variable {base : Nat}

private theorem digitsValue_toDigits (atLeast : 1 < base) (atMost : base ≤ 16) (value : Nat) :
    digitsValue base (Nat.toDigits base value) = value := by
  induction value using Nat.strongRecOn with
  | ind value ih =>
    have last (digit : Nat) (small : digit < base) : digitValue (Nat.digitChar digit) = digit :=
      digitValue_of_writesDigit atMost ⟨small, .inl rfl⟩
    rw [Nat.toDigits_eq_if atLeast]
    split
    · next small => simp [digitsValue, last value small]
    · next large =>
      have positive : 0 < base := Nat.zero_lt_of_lt atLeast
      have smaller : value / base < value := Nat.div_lt_self (by omega) atLeast
      rw [digitsValue_concat, ih _ smaller, last _ (Nat.mod_lt value positive)]
      exact Nat.div_add_mod value base

/-- Zeros in front do not count: the written number can be read back. -/
theorem digitsValue_digits (atLeast : 1 < base) (atMost : base ≤ 16) (width value : Nat) :
    digitsValue base (digits base width value) = value := by
  have zeros (count : Nat) (text : List Char) :
      digitsValue base (List.replicate count '0' ++ text) = digitsValue base text := by
    induction count with
    | zero => rfl
    | succ count ih =>
      rw [List.replicate_succ, List.cons_append, ← ih]
      rfl
  rw [digits, zeros, digitsValue_toDigits atLeast atMost]

/-- The digits determine the number. -/
theorem digits_injective (atLeast : 1 < base) (atMost : base ≤ 16) {width left right : Nat}
    (same : digits base width left = digits base width right) : left = right := by
  rw [← digitsValue_digits atLeast atMost width left, same, digitsValue_digits atLeast atMost]

private theorem exists_digitChar_of_mem_toDigits (atLeast : 1 < base) {value : Nat} {c : Char}
    (member : c ∈ Nat.toDigits base value) : ∃ digit < base, c = Nat.digitChar digit := by
  induction value using Nat.strongRecOn with
  | ind value ih =>
    rw [Nat.toDigits_eq_if atLeast] at member
    split at member
    · next small => exact ⟨value, small, by simpa using member⟩
    · next large =>
      obtain earlier | last : c ∈ Nat.toDigits base (value / base) ∨ _ := by simpa using member
      · exact ih _ (Nat.div_lt_self (by omega) atLeast) earlier
      · exact ⟨value % base, Nat.mod_lt value (by omega), last⟩

/-- A number is written in digits of its base, in lower case. -/
theorem exists_digitChar_of_mem_digits (atLeast : 1 < base) {width value : Nat} {c : Char}
    (member : c ∈ digits base width value) : ∃ digit < base, c = Nat.digitChar digit := by
  obtain zero | plain := List.mem_append.mp member
  · exact ⟨0, Nat.zero_lt_of_lt atLeast, (List.mem_replicate.mp zero).2⟩
  · exact exists_digitChar_of_mem_toDigits atLeast plain

end Printing

section HexBytes

variable {text : List Char} {value : UInt8}

private theorem hexString_iff {number : Nat} :
    DigitString 16 text number ↔
      text ≠ [] ∧ (∀ c ∈ text, isHexDigit c = true) ∧ digitsValue 16 text = number :=
  digitString_iff recognizes_isHexDigit (Nat.le_refl 16)

private theorem eq_withoutPlus (text : List Char) :
    text = withoutPlus text ∨ text = '+' :: withoutPlus text := by
  unfold withoutPlus
  split
  · exact .inr rfl
  · exact .inl rfl

private theorem withoutPlus_of_hexDigits (accepted : ∀ c ∈ text, isHexDigit c = true) :
    withoutPlus text = text := by
  unfold withoutPlus
  split
  · exact absurd (accepted '+' (by simp)) (by decide)
  · rfl

/-- A byte is read from any digits that write it, with a plus sign or without. -/
theorem byteOfHex?_eq_some_iff :
    byteOfHex? text = some value ↔
      ∃ digits, (text = digits ∨ text = '+' :: digits) ∧ DigitString 16 digits value.toNat := by
  simp only [hexString_iff]
  constructor
  · intro read
    simp only [byteOfHex?, Option.ite_none_left_eq_some, Option.ite_none_right_eq_some,
      Option.some.injEq, Bool.or_eq_true, not_or, Bool.not_eq_true', Bool.not_eq_false,
      List.isEmpty_iff, List.all_eq_true] at read
    obtain ⟨⟨nonempty, accepted⟩, small, rfl⟩ := read
    exact ⟨withoutPlus text, eq_withoutPlus text, nonempty, accepted,
      (UInt8.toNat_ofNat_of_lt' small).symm⟩
  · rintro ⟨digits, written, nonempty, accepted, counted⟩
    have stripped : withoutPlus text = digits := by
      obtain rfl | rfl := written
      · exact withoutPlus_of_hexDigits accepted
      · rfl
    have small : digitsValue 16 digits < UInt8.size := counted ▸ value.toNat_lt
    simp only [byteOfHex?, stripped]
    rw [if_neg (by simpa [nonempty] using accepted), if_pos small, counted, UInt8.ofNat_toNat]

private theorem writesDigit_of_hexString {c : Char} {number : Nat}
    (written : DigitString 16 [c] number) : WritesDigit 16 c number := by
  obtain ⟨-, accepted, rfl⟩ := hexString_iff.mp written
  obtain ⟨digit, writes⟩ := (recognizes_isHexDigit c).mp (accepted c (by simp))
  have counted : digitsValue 16 [c] = digit := by
    simpa [digitsValue] using digitValue_of_writesDigit (Nat.le_refl 16) writes
  rwa [counted]

private theorem eq_singleton_of_oneByte (oneByte : (String.ofList text).utf8ByteSize = 1) :
    ∃ c, text = [c] := by
  match text with
  | [] => contradiction
  | [c] => exact ⟨c, rfl⟩
  | c :: d :: rest =>
    have first := c.utf8Size_pos
    have second := d.utf8Size_pos
    simp only [String.ofList_cons, String.utf8ByteSize_append, String.utf8ByteSize_singleton]
      at oneByte
    omega

/-- One byte leaves no room for a sign or for a second digit. -/
theorem writesDigit_of_oneByte
    (read : byteOfHex? text = some value) (oneByte : (String.ofList text).utf8ByteSize = 1) :
    ∃ c, text = [c] ∧ WritesDigit 16 c value.toNat := by
  obtain ⟨c, rfl⟩ := eq_singleton_of_oneByte oneByte
  obtain ⟨digits, plain | signed, written⟩ := byteOfHex?_eq_some_iff.mp read
  · subst plain
    exact ⟨c, rfl, writesDigit_of_hexString written⟩
  · obtain ⟨-, rfl⟩ := List.cons.inj signed
    exact absurd rfl (hexString_iff.mp written).1

end HexBytes

end Chip8.Text
