import M68HC05.Failure

/-!
A compressed stream as bits: each byte gives its eight bits lowest first. Numbers are read off the
front of the stream, lowest bit first.
-/

namespace M68HC05

/-- The stream ends before its last block does. -/
def StreamFault.unfinished : StreamFault := ⟨"FailedCannotMakeProgress"⟩

/-- The stream breaks a rule of its format. -/
def StreamFault.invalid : StreamFault := ⟨"Failed"⟩

namespace Deflate

/-- The rest of a stream. -/
abbrev Bits := List Bool

/-- The bits of a byte, lowest first. -/
def bitsOfByte (byte : UInt8) : Bits :=
  (List.range 8).map byte.toNat.testBit

/-- The bits of a byte string. -/
def bitsOf (bytes : List UInt8) : Bits :=
  bytes.flatMap bitsOfByte

/-- Takes a number of `width` bits off the front. -/
def takeNumber : (width : Nat) → Bits → Except StreamFault (Nat × Bits)
  | 0, bits => .ok (0, bits)
  | _ + 1, [] => .error .unfinished
  | width + 1, bit :: bits => do
    let (high, bits) ← takeNumber width bits
    return (bit.toNat + 2 * high, bits)

/-- Drops the bits up to the next byte of the stream, whose length in bits is a multiple of
eight. -/
def dropToByte (bits : Bits) : Bits :=
  bits.drop (bits.length % 8)

end Deflate
end M68HC05
