/-! # Sizes, places and rates

The numbers that the hardware fixes, each named once. Addresses are sixteen bits wide while memory
holds fewer bytes, so every range check in the library is made on natural numbers.
-/

namespace Chip8

/-- A place in the address space, which is larger than memory. -/
abbrev Address := UInt16

/-- Two bytes of memory, the first one in the high half. -/
abbrev Word := UInt16

abbrev memorySize : Nat := 4096

/-- Where programs are copied and where the program counter starts. -/
abbrev programStart : Nat := 0x200

/-- Length of the longest program that fits above `programStart`. -/
abbrev maxProgramSize : Nat := 3584

/-- Where the small hexadecimal glyphs stand. -/
abbrev fontStart : Nat := 0x050

abbrev fontGlyphSize : Nat := 5

/-- Where the large decimal glyphs stand. -/
abbrev bigFontStart : Nat := 0x0A0

abbrev bigFontGlyphSize : Nat := 10

abbrev stackDepth : Nat := 16

abbrev keyCount : Nat := 16

abbrev displayWidth : Nat := 64

abbrev displayHeight : Nat := 32

/-- Instructions a second. -/
abbrev cpuFrequency : Nat := 500

/-- Timer cycles a second. -/
abbrev timerFrequency : Nat := 60

/-- Input polls a second. -/
abbrev inputFrequency : Nat := 750

/-- A program of the largest size ends where memory ends. -/
theorem programStart_add_maxProgramSize : programStart + maxProgramSize = memorySize := rfl

end Chip8
