import Chip8.Layout

/-! # Random bytes

A source is a sequence of bytes fixed in advance together with how many of them were drawn, so two
machines with the same sequence see the same bytes and the place in the sequence is part of the
state.
-/

namespace Chip8

/-- A sequence of bytes and the number of bytes drawn from it. -/
structure RandomSource where
  byte : Nat → UInt8
  drawn : Nat := 0

namespace RandomSource

/-- The next byte, and the source after it. -/
def next (source : RandomSource) : UInt8 × RandomSource :=
  (source.byte source.drawn, { source with drawn := source.drawn + 1 })

def zeros : RandomSource := ⟨fun _ => 0, 0⟩

/-- The low bytes of the given words, from the first again after the last. -/
def ofWords (words : List UInt32) : RandomSource :=
  ⟨fun index => (words[index % words.length]?.getD 0).toUInt8, 0⟩

/-- Bytes spread from a seed: each index is multiplied into the word and folded. -/
def ofSeed (seed : UInt64) : RandomSource where
  byte index :=
    let mixed := (seed + index.toUInt64 + 1) * 0x9E3779B97F4A7C15
    let folded := (mixed ^^^ (mixed >>> 30)) * 0xBF58476D1CE4E5B9
    (folded >>> 56).toUInt8

end RandomSource

end Chip8
