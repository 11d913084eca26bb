import Chip8.Proofs.Listing
import Chip8.Proofs.Numerals
import Mathlib.Data.List.TakeWhile

/-! # The assembly text determines the program

The text of an instruction is a mnemonic in its column, then the operands with commas between them.
Each of these parts can be read back: the mnemonic, the operands, which hold no comma, and the
instruction from both. So a text belongs to one instruction, and a word of data is written like
none. The main statement, `program_determined_by_text`, says that two programs of one length with
the same text column are the same program.
-/

namespace Chip8

namespace Instruction

inductive Mnemonic where
  | cls | ret | jp | call | se | sne | ld | add | or | and | xor | sub | shr | subn | shl | rnd
  | drw | skp | sknp
deriving DecidableEq

def Mnemonic.column : Mnemonic → String
  | cls => "cls"
  | ret => "ret"
  | jp => "jp   "
  | call => "call "
  | se => "se   "
  | sne => "sne  "
  | ld => "ld   "
  | add => "add  "
  | or => "or   "
  | and => "and  "
  | xor => "xor  "
  | sub => "sub  "
  | shr => "shr  "
  | subn => "subn "
  | shl => "shl  "
  | rnd => "rnd  "
  | drw => "drw  "
  | skp => "skp  "
  | sknp => "sknp "

def Mnemonic.ofColumn? (column : String) : Option Mnemonic :=
  [cls, ret, jp, call, se, sne, ld, add, or, and, xor, sub, shr, subn, shl, rnd, drw, skp,
    sknp].find? fun mnemonic => mnemonic.column == column

private theorem Mnemonic.ofColumn?_column (mnemonic : Mnemonic) :
    ofColumn? mnemonic.column = some mnemonic := by
  cases mnemonic <;> decide

private theorem Mnemonic.column_injective {left right : Mnemonic}
    (same : left.column = right.column) : left = right := by
  apply Option.some.inj
  rw [← ofColumn?_column left, same, ofColumn?_column]

/-- What an instruction works on. -/
inductive Operand where
  | register (x : VIndex)
  | byte (value : UInt8)
  | address (target : Target)
  | rows (count : RowCount)
  | delay | sound | key | smallGlyph | largeGlyph | decimal | index | memory
deriving DecidableEq

namespace Operand

def text : Operand → String
  | register x => registerText x
  | byte value => byteText value
  | address target => targetText target
  | rows count => toString count.val
  | delay => "dt"
  | sound => "st"
  | key => "k"
  | smallGlyph => "f"
  | largeGlyph => "hf"
  | decimal => "b"
  | index => "i"
  | memory => "[i]"

def ofName? (name : List Char) : Option Operand :=
  [delay, sound, key, smallGlyph, largeGlyph, decimal, index, memory].find? fun operand =>
    operand.text.toList == name

/-- The operand that is written so. A literal of two digits is a byte and a longer one an address;
what is neither that nor a name is a number of rows. -/
def ofChars : List Char → Operand
  | 'v' :: digit :: _ => register (lastDigit (Text.digitValue digit))
  | '0' :: 'x' :: digits =>
    let value := Text.digitsValue 16 digits
    if digits.length = 2 then byte (UInt8.ofNat value) else address (lastTarget value)
  | chars => (ofName? chars).getD (rows (lastDigit (Text.digitsValue 10 chars)))

theorem toList_hexLiteral (width value : Nat) :
    (Text.hexLiteral width value).toList = '0' :: 'x' :: Text.digits 16 width value := by
  simp [Text.hexLiteral, Text.hex]

/-- Every operand can be read back from its text. -/
theorem ofChars_text (operand : Operand) : ofChars operand.text.toList = operand := by
  have read (width value : Nat) : Text.digitsValue 16 (Text.digits 16 width value) = value :=
    Text.digitsValue_digits (by decide) (by decide) width value
  cases operand with
  | register x =>
    have digit : Text.digitValue (Text.upperHexDigit x.val) = x.val :=
      Text.digitValue_of_writesDigit (Nat.le_refl 16) ⟨x.isLt, .inr rfl⟩
    have same : lastDigit x.val = x := Fin.ext (Nat.mod_eq_of_lt x.isLt)
    rw [text, registerText, RegisterName.text, String.toList_ofList, ofChars, digit, same]
  | byte value =>
    have short : (Nat.toDigits 16 value.toNat).length ≤ 2 :=
      (Nat.length_toDigits_le_iff (by decide) (by decide)).mpr value.toNat_lt
    have width : (Text.digits 16 2 value.toNat).length = 2 := by
      rw [Text.length_digits, Nat.max_eq_left short]
    rw [text, byteText, toList_hexLiteral, ofChars, if_pos width, read, UInt8.ofNat_toNat]
  | address target =>
    have short : (Nat.toDigits 16 target.val).length ≤ 3 :=
      (Nat.length_toDigits_le_iff (by decide) (by decide)).mpr target.isLt
    have width : (Text.digits 16 3 target.val).length = 3 := by
      rw [Text.length_digits, Nat.max_eq_left short]
    have same : lastTarget target.val = target := Fin.ext (Nat.mod_eq_of_lt target.isLt)
    rw [text, targetText, Text.addressText, toList_hexLiteral, ofChars, width, if_neg (by decide),
      read, same]
  | rows count =>
    -- A number of rows is none of the names, and a zero in front of it would be all of it.
    revert count
    decide
  | delay | sound | key | smallGlyph | largeGlyph | decimal | index | memory => rfl

private theorem text_injective {left right : Operand} (same : left.text = right.text) :
    left = right := by
  rw [← ofChars_text left, same, ofChars_text]

/-- The characters that operands are written with. -/
def isChar (c : Char) : Bool := c.isAlphanum || c == '[' || c == ']'

theorem all_digits (width value : Nat) : (Text.digits 16 width value).all isChar = true := by
  have table : ∀ digit < 16, isChar (Nat.digitChar digit) = true := by decide
  rw [List.all_eq_true]
  intro c member
  obtain ⟨digit, small, rfl⟩ := Text.exists_digitChar_of_mem_digits (by decide) member
  exact table digit small

theorem all_hexLiteral (width value : Nat) :
    (Text.hexLiteral width value).toList.all isChar = true := by
  rw [toList_hexLiteral, List.all_cons, List.all_cons, all_digits]
  rfl

theorem all_text (operand : Operand) : operand.text.toList.all isChar = true := by
  cases operand with
  | byte value => exact all_hexLiteral 2 value.toNat
  | address target => exact all_hexLiteral 3 target.val
  | register x =>
    revert x
    decide
  | rows count =>
    revert count
    decide
  | delay | sound | key | smallGlyph | largeGlyph | decimal | index | memory => decide

private theorem text_ne_nil (operand : Operand) : operand.text.toList ≠ [] := by
  cases operand with
  | byte value => simp [text, byteText, toList_hexLiteral]
  | address target => simp [text, targetText, Text.addressText, toList_hexLiteral]
  | register x => simp [text, registerText, RegisterName.text]
  | rows count =>
    revert count
    decide
  | delay | sound | key | smallGlyph | largeGlyph | decimal | index | memory => decide

def joined : List Operand → List Char
  | [] => []
  | [operand] => operand.text.toList
  | operand :: rest => operand.text.toList ++ ',' :: ' ' :: joined rest

private theorem takeWhile_joined (operand : Operand) (rest : List Operand) :
    (joined (operand :: rest)).takeWhile isChar = operand.text.toList := by
  have all := List.all_eq_true.mp operand.all_text
  cases rest with
  | nil => exact List.takeWhile_eq_self_iff.mpr all
  | cons second rest =>
    rw [joined, List.takeWhile_append_of_pos all, List.takeWhile_cons_of_neg (by decide),
      List.append_nil]
    exact List.cons_ne_nil second rest

private theorem dropWhile_joined (operand : Operand) (rest : List Operand) :
    (joined (operand :: rest)).dropWhile isChar =
      if rest = [] then [] else ',' :: ' ' :: joined rest := by
  have all := List.all_eq_true.mp operand.all_text
  cases rest with
  | nil => exact List.dropWhile_eq_nil_iff.mpr all
  | cons second rest =>
    rw [joined, List.dropWhile_append_of_pos all, List.dropWhile_cons_of_neg (by decide)]
    · rfl
    · exact List.cons_ne_nil second rest

/-- The commas show where one operand ends, since no operand is empty or holds one. -/
theorem joined_injective {left right : List Operand} (same : joined left = joined right) :
    left = right := by
  have nonempty (operand : Operand) (rest : List Operand) : joined (operand :: rest) ≠ [] := by
    intro empty
    apply operand.text_ne_nil
    rw [← takeWhile_joined operand rest, empty, List.takeWhile_nil]
  induction left generalizing right with
  | nil =>
    cases right with
    | nil => rfl
    | cons other others => exact absurd same.symm (nonempty other others)
  | cons operand rest ih =>
    cases right with
    | nil => exact absurd same (nonempty operand rest)
    | cons other others =>
      have head := congrArg (List.takeWhile isChar) same
      have tail := congrArg (List.dropWhile isChar) same
      rw [takeWhile_joined, takeWhile_joined, String.toList_inj] at head
      rw [dropWhile_joined, dropWhile_joined] at tail
      rw [text_injective head]
      by_cases last : rest = [] <;> by_cases otherLast : others = []
      · rw [last, otherLast]
      · simp [last, otherLast] at tail
      · simp [last, otherLast] at tail
      · rw [if_neg last, if_neg otherLast] at tail
        rw [ih (List.tail_eq_of_cons_eq (List.tail_eq_of_cons_eq tail))]

end Operand

/-- The mnemonic and the operands of an instruction. -/
def parts : Instruction → Mnemonic × List Operand
  | clear => (.cls, [])
  | ret => (.ret, [])
  | jump target => (.jp, [.address target])
  | call target => (.call, [.address target])
  | skipEqByte x byte => (.se, [.register x, .byte byte])
  | skipNeByte x byte => (.sne, [.register x, .byte byte])
  | skipEq x y => (.se, [.register x, .register y])
  | skipNe x y => (.sne, [.register x, .register y])
  | setByte x byte => (.ld, [.register x, .byte byte])
  | addByte x byte => (.add, [.register x, .byte byte])
  | copy x y => (.ld, [.register x, .register y])
  | bitOr x y => (.or, [.register x, .register y])
  | bitAnd x y => (.and, [.register x, .register y])
  | bitXor x y => (.xor, [.register x, .register y])
  | add x y => (.add, [.register x, .register y])
  | sub x y => (.sub, [.register x, .register y])
  | shiftRight x y => (.shr, [.register x, .register y])
  | subFrom x y => (.subn, [.register x, .register y])
  | shiftLeft x y => (.shl, [.register x, .register y])
  | setIndex target => (.ld, [.index, .address target])
  | jumpOffset target => (.jp, [.register (lastDigit 0), .address target])
  | random x mask => (.rnd, [.register x, .byte mask])
  | draw x y rows => (.drw, [.register x, .register y, .rows rows])
  | skipDown x => (.skp, [.register x])
  | skipUp x => (.sknp, [.register x])
  | readDelay x => (.ld, [.register x, .delay])
  | waitKey x => (.ld, [.register x, .key])
  | setDelay x => (.ld, [.delay, .register x])
  | setSound x => (.ld, [.sound, .register x])
  | addIndex x => (.add, [.index, .register x])
  | smallGlyph x => (.ld, [.smallGlyph, .register x])
  | largeGlyph x => (.ld, [.largeGlyph, .register x])
  | decimal x => (.ld, [.decimal, .register x])
  | store x => (.ld, [.memory, .register x])
  | load x => (.ld, [.register x, .memory])

def ofParts? : Mnemonic × List Operand → Option Instruction
  | (.cls, []) => some clear
  | (.ret, []) => some ret
  | (.jp, [.address target]) => some (jump target)
  | (.call, [.address target]) => some (call target)
  | (.se, [.register x, .byte byte]) => some (skipEqByte x byte)
  | (.sne, [.register x, .byte byte]) => some (skipNeByte x byte)
  | (.se, [.register x, .register y]) => some (skipEq x y)
  | (.sne, [.register x, .register y]) => some (skipNe x y)
  | (.ld, [.register x, .byte byte]) => some (setByte x byte)
  | (.add, [.register x, .byte byte]) => some (addByte x byte)
  | (.ld, [.register x, .register y]) => some (copy x y)
  | (.or, [.register x, .register y]) => some (bitOr x y)
  | (.and, [.register x, .register y]) => some (bitAnd x y)
  | (.xor, [.register x, .register y]) => some (bitXor x y)
  | (.add, [.register x, .register y]) => some (add x y)
  | (.sub, [.register x, .register y]) => some (sub x y)
  | (.shr, [.register x, .register y]) => some (shiftRight x y)
  | (.subn, [.register x, .register y]) => some (subFrom x y)
  | (.shl, [.register x, .register y]) => some (shiftLeft x y)
  | (.ld, [.index, .address target]) => some (setIndex target)
  | (.jp, [.register _, .address target]) => some (jumpOffset target)
  | (.rnd, [.register x, .byte mask]) => some (random x mask)
  | (.drw, [.register x, .register y, .rows rows]) => some (draw x y rows)
  | (.skp, [.register x]) => some (skipDown x)
  | (.sknp, [.register x]) => some (skipUp x)
  | (.ld, [.register x, .delay]) => some (readDelay x)
  | (.ld, [.register x, .key]) => some (waitKey x)
  | (.ld, [.delay, .register x]) => some (setDelay x)
  | (.ld, [.sound, .register x]) => some (setSound x)
  | (.add, [.index, .register x]) => some (addIndex x)
  | (.ld, [.smallGlyph, .register x]) => some (smallGlyph x)
  | (.ld, [.largeGlyph, .register x]) => some (largeGlyph x)
  | (.ld, [.decimal, .register x]) => some (decimal x)
  | (.ld, [.memory, .register x]) => some (store x)
  | (.ld, [.register x, .memory]) => some (load x)
  | _ => none

private theorem ofParts?_parts (instruction : Instruction) :
    ofParts? instruction.parts = some instruction := by
  cases instruction <;> rfl

/-- No two formats share both the mnemonic and the kinds of their operands. -/
theorem parts_injective {left right : Instruction} (same : left.parts = right.parts) :
    left = right := by
  apply Option.some.inj
  rw [← ofParts?_parts left, same, ofParts?_parts]

theorem toList_text (instruction : Instruction) :
    instruction.text.toList =
      instruction.parts.1.column.toList ++ Operand.joined instruction.parts.2 := by
  have zero : (registerText (lastDigit 0)).toList = ['v', '0'] := rfl
  cases instruction <;> unfold text <;>
    simp [parts, Mnemonic.column, Operand.joined, Operand.text, toString, zero]

/-- The mnemonic has five characters to itself, and fewer only if no operand follows. -/
theorem splitAt_text (instruction : Instruction) :
    instruction.text.toList.splitAt 5 =
      (instruction.parts.1.column.toList, Operand.joined instruction.parts.2) := by
  rw [toList_text]
  cases instruction <;> simp [parts, Mnemonic.column, Operand.joined]

/-- The text says which instruction it is. -/
theorem text_injective {left right : Instruction} (same : left.text = right.text) :
    left = right := by
  have split := congrArg (fun text => text.toList.splitAt 5) same
  simp only [splitAt_text, Prod.mk.injEq, String.toList_inj] at split
  obtain ⟨mnemonic, operands⟩ := split
  exact parts_injective
    (Prod.ext (Mnemonic.column_injective mnemonic) (Operand.joined_injective operands))

theorem toList_data (word : Word) :
    s!".word {Text.hexLiteral 4 word.toNat}".toList =
      '.' :: 'w' :: 'o' :: 'r' :: 'd' :: ' ' :: '0' :: 'x' :: Text.digits 16 4 word.toNat := by
  simp [toString, Operand.toList_hexLiteral]

/-- No instruction is written like data. -/
theorem text_ne_data (instruction : Instruction) (word : Word) :
    instruction.text ≠ s!".word {Text.hexLiteral 4 word.toNat}" := by
  intro same
  have first := congrArg (fun text => (text.toList.splitAt 5).1.head?) same
  simp only [splitAt_text, toList_data] at first
  change _ = some '.' at first
  revert first
  cases instruction.parts.1 <;> decide

end Instruction

namespace Listing

open Instruction

/-- The text column says which word stands on a line, wherever the line is. -/
theorem word_eq_of_body_eq {here there : Address} {left right : Word}
    (same : (Line.ofWord here left).body = (Line.ofWord there right).body) : left = right := by
  simp only [Line.body, Line.ofWord] at same
  cases first : decode? left with
  | some instruction =>
    cases second : decode? right with
    | some other =>
      rw [first, second] at same
      rw [← text_injective same] at second
      exact decode?_injective first second
    | none =>
      rw [first, second] at same
      exact absurd same (instruction.text_ne_data right)
  | none =>
    cases second : decode? right with
    | some other =>
      rw [first, second] at same
      exact absurd same.symm (other.text_ne_data left)
    | none =>
      rw [first, second] at same
      have literals := congrArg String.toList same
      simp only [toList_data, List.cons.injEq, true_and] at literals
      exact UInt16.toNat_inj.mp (Text.digits_injective (by decide) (by decide) literals)

private theorem wordAt_eq_of_body_eq {left right : List UInt8} {origin : Address} {index : Nat}
    (same : (ofProgram left origin).map Line.body = (ofProgram right origin).map Line.body)
    (inLeft : index < min ((left.length + 1) / 2) (capacity origin))
    (inRight : index < min ((right.length + 1) / 2) (capacity origin)) :
    wordAt left index = wordAt right index := by
  have bodies := congrArg (·[index]?) same
  simp only [List.getElem?_map, getElem?_ofProgram, inLeft, inRight, if_true, Option.map_some,
    Option.some.injEq] at bodies
  exact word_eq_of_body_eq bodies

/-- Decoding forgets nothing, no two instructions and no two words share a text, and so two
programs of one length that end below the top of the address space are the same program if their
listings have the same text column. -/
theorem program_determined_by_text :
    (∀ left right instruction, decode? left = some instruction →
      decode? right = some instruction → left = right) ∧
    (∀ left right : Instruction, left.text = right.text → left = right) ∧
    (∀ here there left right,
      (Line.ofWord here left).body = (Line.ofWord there right).body → left = right) ∧
    ∀ (origin : Address) (left right : List UInt8), left.length = right.length →
      origin.toNat + left.length ≤ 65536 →
      (ofProgram left origin).map Line.body = (ofProgram right origin).map Line.body →
      left = right := by
  refine ⟨fun _ _ _ => decode?_injective, fun _ _ => text_injective,
    fun _ _ _ _ => word_eq_of_body_eq, ?_⟩
  intro origin left right length fits same
  apply eq_of_wordAt_eq length
  intro index inside
  have listed : index < min ((left.length + 1) / 2) (capacity origin) := by
    unfold capacity
    omega
  exact wordAt_eq_of_body_eq same listed (length ▸ listed)

/-- The lengths have to agree: a missing last byte is shown as a zero. -/
example : ofProgram [0x12] 0x200 = ofProgram [0x12, 0x00] 0x200 := rfl

end Listing

end Chip8
