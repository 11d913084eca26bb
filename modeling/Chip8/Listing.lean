import Chip8.Instruction.Assembly

/-! # Listings

A program read word by word from a first address on. A last single byte is completed with a zero
byte, and a listing ends with the last address that sixteen bits can hold, whatever is left of the
program.
-/

namespace Chip8.Listing

/-- One word of a program at its address. -/
structure Line where
  address : Address
  word : Word
  instruction : Option Instruction
deriving DecidableEq, Repr

def Line.ofWord (address : Address) (word : Word) : Line :=
  ⟨address, word, Instruction.decode? word⟩

/-- What stands in the text column: an instruction, or the word as data. -/
def Line.body (line : Line) : String :=
  match line.instruction with
  | some instruction => instruction.text
  | none => s!".word {Text.hexLiteral 4 line.word.toNat}"

/-- Address, word and text. -/
def Line.text (line : Line) : String :=
  s!"{Text.addressText line.address.toNat}  {Text.hex 4 line.word.toNat}  {line.body}"

def wordOf (high low : UInt8) : Word := (high.toUInt16 <<< 8) ||| low.toUInt16

/-- The words of a byte list, a missing last byte being zero. -/
def words : List UInt8 → List Word
  | [] => []
  | [high] => [wordOf high 0]
  | high :: low :: rest => wordOf high low :: words rest

/-- Every second address from `start` on, at most `count` of them and none above sixteen bits. -/
def addresses (start : Address) (count : Nat) : List Address :=
  ((List.range count).map fun index => start.toNat + 2 * index).filterMap fun place =>
    if place < UInt16.size then some place.toUInt16 else none

/-- The listing of a program that starts at `origin`. -/
def ofProgram (program : List UInt8) (origin : Address) : List Line :=
  let listed := words program
  List.zipWith Line.ofWord (addresses origin listed.length) listed

@[simp] theorem length_words (bytes : List UInt8) :
    (words bytes).length = (bytes.length + 1) / 2 := by
  fun_induction words bytes <;> simp_all
  omega

end Chip8.Listing
