import Chip8.Instruction

/-! # Assembly text

One line of text for each instruction: a mnemonic in a column of five, then the operands. Addresses
have three digits, bytes two, and sprite heights are decimal.
-/

namespace Chip8.Instruction

def registerText (x : VIndex) : String := (RegisterName.v x).text

def byteText (byte : UInt8) : String := Text.hexLiteral 2 byte.toNat

def targetText (target : Target) : String := Text.addressText target.val

def text : Instruction → String
  | clear => "cls"
  | ret => "ret"
  | jump target => s!"jp   {targetText target}"
  | call target => s!"call {targetText target}"
  | skipEqByte x byte => s!"se   {registerText x}, {byteText byte}"
  | skipNeByte x byte => s!"sne  {registerText x}, {byteText byte}"
  | skipEq x y => s!"se   {registerText x}, {registerText y}"
  | skipNe x y => s!"sne  {registerText x}, {registerText y}"
  | setByte x byte => s!"ld   {registerText x}, {byteText byte}"
  | addByte x byte => s!"add  {registerText x}, {byteText byte}"
  | copy x y => s!"ld   {registerText x}, {registerText y}"
  | bitOr x y => s!"or   {registerText x}, {registerText y}"
  | bitAnd x y => s!"and  {registerText x}, {registerText y}"
  | bitXor x y => s!"xor  {registerText x}, {registerText y}"
  | add x y => s!"add  {registerText x}, {registerText y}"
  | sub x y => s!"sub  {registerText x}, {registerText y}"
  | shiftRight x y => s!"shr  {registerText x}, {registerText y}"
  | subFrom x y => s!"subn {registerText x}, {registerText y}"
  | shiftLeft x y => s!"shl  {registerText x}, {registerText y}"
  | setIndex target => s!"ld   i, {targetText target}"
  | jumpOffset target => s!"jp   v0, {targetText target}"
  | random x mask => s!"rnd  {registerText x}, {byteText mask}"
  | draw x y rows => s!"drw  {registerText x}, {registerText y}, {rows.val}"
  | skipDown x => s!"skp  {registerText x}"
  | skipUp x => s!"sknp {registerText x}"
  | readDelay x => s!"ld   {registerText x}, dt"
  | waitKey x => s!"ld   {registerText x}, k"
  | setDelay x => s!"ld   dt, {registerText x}"
  | setSound x => s!"ld   st, {registerText x}"
  | addIndex x => s!"add  i, {registerText x}"
  | smallGlyph x => s!"ld   f, {registerText x}"
  | largeGlyph x => s!"ld   hf, {registerText x}"
  | decimal x => s!"ld   b, {registerText x}"
  | store x => s!"ld   [i], {registerText x}"
  | load x => s!"ld   {registerText x}, [i]"

end Chip8.Instruction
