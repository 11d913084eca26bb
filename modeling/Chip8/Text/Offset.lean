/-! # Byte offsets in a text

Places in a text counted in bytes of its UTF-8 form. Only places between two characters count, and
what is taken away from a text by its length in bytes is taken in whole characters.
-/

namespace Chip8.Text

/-- The characters before and after a byte offset, if the offset falls between two characters. -/
def splitAtByte? : Nat → List Char → Option (List Char × List Char)
  | 0, text => some ([], text)
  | _ + 1, [] => none
  | offset, c :: rest =>
    if c.utf8Size ≤ offset then
      (splitAtByte? (offset - c.utf8Size) rest).map fun (before, after) => (c :: before, after)
    else none

/-- The two parts make up the text. -/
theorem append_of_splitAtByte? {offset : Nat} {text before after : List Char}
    (split : splitAtByte? offset text = some (before, after)) : before ++ after = text := by
  fun_induction splitAtByte? offset text generalizing before with
  | case1 text => cases split; rfl
  | case2 => contradiction
  | case3 offset c rest _ _ ih =>
    simp only [Option.map_eq_some_iff, Prod.exists, Prod.mk.injEq] at split
    obtain ⟨front, back, found, rfl, rfl⟩ := split
    simp [ih found]
  | case4 => contradiction

/-- A text can be split where a part of it ends, and nowhere else. -/
theorem splitAtByte?_eq_some_iff {offset : Nat} {text before after : List Char} :
    splitAtByte? offset text = some (before, after) ↔
      text = before ++ after ∧ (String.ofList before).utf8ByteSize = offset := by
  constructor
  · intro split
    refine ⟨(append_of_splitAtByte? split).symm, ?_⟩
    fun_induction splitAtByte? offset text generalizing before with
    | case1 text => cases split; rfl
    | case2 => contradiction
    | case3 offset c rest _ fits ih =>
      simp only [Option.map_eq_some_iff, Prod.exists, Prod.mk.injEq] at split
      obtain ⟨front, back, found, rfl, rfl⟩ := split
      rw [String.ofList_cons, String.utf8ByteSize_append, String.utf8ByteSize_singleton, ih found]
      omega
    | case4 => contradiction
  · rintro ⟨rfl, rfl⟩
    induction before with
    | nil => simp [splitAtByte?]
    | cons c rest ih =>
      have positive := Char.utf8Size_pos c
      rw [String.ofList_cons, String.utf8ByteSize_append, String.utf8ByteSize_singleton,
        List.cons_append, splitAtByte?.eq_def]
      split
      · omega
      · contradiction
      · next same _ =>
        cases same
        rw [if_pos (Nat.le_add_right ..), Nat.add_sub_cancel_left, ih]
        rfl

/-- A text without some bytes at its front. -/
def dropBytes (text : List Char) (count : Nat) : List Char :=
  match text with
  | [] => []
  | c :: rest => if count = 0 then text else dropBytes rest (count - c.utf8Size)

end Chip8.Text
