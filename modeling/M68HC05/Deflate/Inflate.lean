import M68HC05.Deflate.CodeTree

/-!
Expansion of a compressed stream. A stream is a sequence of blocks of which one is marked as the
last. A block is stored bytes, or symbols of a fixed pair of codes, or symbols of a pair of codes
that the block brings along. A symbol stands for a byte, for the end of the block, or with extra
bits for the length of a copy; the distance of a copy follows in the second code. What comes after
the last block is not looked at.
-/

namespace M68HC05.Deflate

/-! ## Symbols -/

/-- Least value and number of extra bits of each length symbol. -/
def lengthTable : Array (Nat × Nat) :=
  #[(3, 0), (4, 0), (5, 0), (6, 0), (7, 0), (8, 0), (9, 0), (10, 0), (11, 1), (13, 1), (15, 1),
    (17, 1), (19, 2), (23, 2), (27, 2), (31, 2), (35, 3), (43, 3), (51, 3), (59, 3), (67, 4),
    (83, 4), (99, 4), (115, 4), (131, 5), (163, 5), (195, 5), (227, 5), (258, 0)]

/-- Least value and number of extra bits of each distance symbol. -/
def distanceTable : Array (Nat × Nat) :=
  #[(1, 0), (2, 0), (3, 0), (4, 0), (5, 1), (7, 1), (9, 2), (13, 2), (17, 3), (25, 3), (33, 4),
    (49, 4), (65, 5), (97, 5), (129, 6), (193, 6), (257, 7), (385, 7), (513, 8), (769, 8),
    (1025, 9), (1537, 9), (2049, 10), (3073, 10), (4097, 11), (6145, 11), (8193, 12), (12289, 12),
    (16385, 13), (24577, 13)]

/-- The value of a symbol with its extra bits, by a table. -/
def takeExtended (table : Array (Nat × Nat)) (symbol : Nat) (bits : Bits) :
    Except StreamFault (Nat × Bits) :=
  match table[symbol]? with
  | none => .error .invalid
  | some (least, width) => do
    let (extra, bits) ← takeNumber width bits
    return (least + extra, bits)

/-- Copies `length` bytes from `distance` back, one at a time, so that a copy may overlap itself. -/
def copyBack (distance : Nat) : (length : Nat) → Array UInt8 → Array UInt8
  | 0, out => out
  | length + 1, out => copyBack distance length (out.push (out.getD (out.size - distance) 0))

/-- Expands symbols up to the end of the block. Every symbol takes at least one bit, so the number
of bits bounds the number of turns. -/
def expandSymbols (literals distances : CodeTree) :
    (turns : Nat) → Array UInt8 → Bits → Except StreamFault (Array UInt8 × Bits)
  | 0, _, _ => .error .unfinished
  | turns + 1, out, bits => do
    let (symbol, bits) ← literals.takeSymbol bits
    if symbol < 256 then
      expandSymbols literals distances turns (out.push (UInt8.ofNat symbol)) bits
    else if symbol = 256 then
      return (out, bits)
    else
      let (length, bits) ← takeExtended lengthTable (symbol - 257) bits
      let (symbol, bits) ← distances.takeSymbol bits
      let (distance, bits) ← takeExtended distanceTable symbol bits
      if distance ≤ out.size then
        expandSymbols literals distances turns (copyBack distance length out) bits
      else throw .invalid

/-! ## Blocks -/

/-- Takes stored bytes. -/
def takeBytes : (count : Nat) → Array UInt8 → Bits → Except StreamFault (Array UInt8 × Bits)
  | 0, out, bits => .ok (out, bits)
  | count + 1, out, bits => do
    let (byte, bits) ← takeNumber 8 bits
    takeBytes count (out.push (UInt8.ofNat byte)) bits

/-- A block of stored bytes. It begins at a byte of the stream with the number of bytes and that
number complemented. -/
def expandStored (out : Array UInt8) (bits : Bits) : Except StreamFault (Array UInt8 × Bits) := do
  let (count, bits) ← takeNumber 16 (dropToByte bits)
  let (complement, bits) ← takeNumber 16 bits
  if count + complement = 0xFFFF then takeBytes count out bits else throw .invalid

/-- The fixed code of literals and lengths. -/
def fixedLiteralLengths : List Nat :=
  .replicate 144 8 ++ .replicate 112 9 ++ .replicate 24 7 ++ .replicate 8 8

/-- The fixed code of literals and lengths as a tree. -/
def fixedLiterals : CodeTree := .ofLengths fixedLiteralLengths

/-- The fixed code of distances as a tree. -/
def fixedDistances : CodeTree := .ofLengths (.replicate 32 5)

/-- The order in which the codeword lengths of the code for lengths are written. -/
def lengthOrder : List Nat :=
  [16, 17, 18, 0, 8, 7, 9, 6, 10, 5, 11, 4, 12, 3, 13, 2, 14, 1, 15]

/-- Takes `count` numbers of three bits. -/
def takeShortLengths : (count : Nat) → Bits → Except StreamFault (List Nat × Bits)
  | 0, bits => .ok ([], bits)
  | count + 1, bits => do
    let (length, bits) ← takeNumber 3 bits
    let (lengths, bits) ← takeShortLengths count bits
    return (length :: lengths, bits)

/-- Codeword lengths of the code for lengths by symbol; those not written are zero. -/
def orderedLengths (written : List Nat) : List Nat :=
  (List.range 19).map fun symbol =>
    ((lengthOrder.zip written).lookup symbol).getD 0

/-- Takes codeword lengths up to `total` of them, in reverse. Symbols below 16 are lengths; 16
repeats the last length, 17 and 18 write zeros. A repetition must not pass the total. -/
def takeLengths (code : CodeTree) (total : Nat) :
    (turns : Nat) → List Nat → Bits → Except StreamFault (List Nat × Bits)
  | 0, lengths, bits =>
    if lengths.length = total then .ok (lengths, bits) else .error .unfinished
  | turns + 1, lengths, bits =>
    if lengths.length = total then .ok (lengths, bits)
    else if total < lengths.length then .error .invalid
    else do
      let (symbol, bits) ← code.takeSymbol bits
      if symbol < 16 then
        takeLengths code total turns (symbol :: lengths) bits
      else if symbol = 16 then
        match lengths with
        | [] => throw .invalid
        | last :: _ =>
          let (extra, bits) ← takeNumber 2 bits
          takeLengths code total turns (.replicate (3 + extra) last ++ lengths) bits
      else
        let (extra, bits) ← takeNumber (if symbol = 17 then 3 else 7) bits
        let count := (if symbol = 17 then 3 else 11) + extra
        takeLengths code total turns (.replicate count 0 ++ lengths) bits

/-- Takes the two codes that a block brings along. -/
def takeCodes (bits : Bits) : Except StreamFault ((CodeTree × CodeTree) × Bits) := do
  let (literalCount, bits) ← takeNumber 5 bits
  let (distanceCount, bits) ← takeNumber 5 bits
  let (lengthCount, bits) ← takeNumber 4 bits
  let literalCount := literalCount + 257
  let distanceCount := distanceCount + 1
  if 286 < literalCount ∨ 30 < distanceCount then throw .invalid
  let (written, bits) ← takeShortLengths (lengthCount + 4) bits
  let code ← CodeTree.ofLengths? false (orderedLengths written)
  let total := literalCount + distanceCount
  let (lengths, bits) ← takeLengths code total (total + 1) [] bits
  let lengths := lengths.reverse
  let distances ← CodeTree.ofLengths? true (lengths.drop literalCount)
  let literals ← CodeTree.ofLengths? true (lengths.take literalCount)
  return ((literals, distances), bits)

/-- Expands one block of the given kind. -/
def expandBlock (kind : Nat) (out : Array UInt8) (bits : Bits) :
    Except StreamFault (Array UInt8 × Bits) :=
  match kind with
  | 0 => expandStored out bits
  | 1 => expandSymbols fixedLiterals fixedDistances bits.length out bits
  | 2 => do
    let ((literals, distances), bits) ← takeCodes bits
    expandSymbols literals distances bits.length out bits
  | _ => .error .invalid

/-- Expands blocks up to the last one. Every block takes at least one bit, so the number of bits
bounds the number of turns. -/
def expandBlocks : (turns : Nat) → Array UInt8 → Bits → Except StreamFault (Array UInt8)
  | 0, _, _ => .error .unfinished
  | turns + 1, out, bits => do
    let (last, bits) ← takeNumber 1 bits
    let (kind, bits) ← takeNumber 2 bits
    let (out, bits) ← expandBlock kind out bits
    if last = 1 then return out else expandBlocks turns out bits

/-- The bytes that a stream at the front of `bytes` stands for. -/
def inflate (bytes : List UInt8) : Except StreamFault (Array UInt8) :=
  let bits := bitsOf bytes
  expandBlocks bits.length #[] bits

end M68HC05.Deflate
