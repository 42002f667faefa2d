import M68HC05.Cpu
import M68HC05.Instruction

/-!
Operations on bytes and the flags they leave. Carries are read off bit by bit from both operands
and the result, so the flag rules take the result as an argument.
-/

namespace M68HC05.Cpu

/-- Negative and zero flags of a result. -/
def setSignZero (cpu : Cpu) (result : UInt8) : Cpu :=
  (cpu.setFlag .negative (result &&& 0x80 ≠ 0)).setFlag .zero (result = 0)

/-- The positions that carry when `result` is the sum of `a` and `m`, with or without a carry
in. -/
def carries (a m result : UInt8) : UInt8 :=
  (a &&& m) ||| (m &&& ~~~result) ||| (~~~result &&& a)

/-- The positions that borrow when `result` is the difference of `a` and `m`, with or without a
borrow in. -/
def borrows (a m result : UInt8) : UInt8 :=
  (~~~a &&& m) ||| (m &&& result) ||| (result &&& ~~~a)

/-- Flags of an addition. -/
def setAddFlags (cpu : Cpu) (a m result : UInt8) : Cpu :=
  let carries := carries a m result
  ((cpu.setFlag .halfCarry (carries &&& 0x08 ≠ 0)).setFlag .carry (carries &&& 0x80 ≠ 0)).setSignZero
    result

/-- Flags of a subtraction or comparison; the half carry stays. -/
def setSubFlags (cpu : Cpu) (a m result : UInt8) : Cpu :=
  (cpu.setFlag .carry (borrows a m result &&& 0x80 ≠ 0)).setSignZero result

/-- The carry flag as a number. -/
def carryIn (cpu : Cpu) : UInt8 :=
  if cpu.flag .carry then 1 else 0

/-- Stores a result in the accumulator with its sign and zero flags. -/
def loadA (cpu : Cpu) (result : UInt8) : Cpu :=
  { cpu with a := result }.setSignZero result

/-- An operation of the accumulator or index register with the byte `m`. -/
def operate (cpu : Cpu) (op : RegisterOp) (m : UInt8) : Cpu :=
  match op with
  | .sub =>
    let result := cpu.a - m
    { cpu.setSubFlags cpu.a m result with a := result }
  | .cmp => cpu.setSubFlags cpu.a m (cpu.a - m)
  | .sbc =>
    let result := cpu.a - m - cpu.carryIn
    { cpu.setSubFlags cpu.a m result with a := result }
  | .cpx => cpu.setSubFlags cpu.x m (cpu.x - m)
  | .and => cpu.loadA (cpu.a &&& m)
  | .bit => cpu.setSignZero (cpu.a &&& m)
  | .lda => cpu.loadA m
  | .eor => cpu.loadA (cpu.a ^^^ m)
  | .adc =>
    let result := cpu.a + m + cpu.carryIn
    { cpu.setAddFlags cpu.a m result with a := result }
  | .ora => cpu.loadA (cpu.a ||| m)
  | .add =>
    let result := cpu.a + m
    { cpu.setAddFlags cpu.a m result with a := result }
  | .ldx => { cpu with x := m }.setSignZero m

/-- The result of a read-modify-write operation on `m` with the carry flag as it is. -/
def modified (cpu : Cpu) (op : ModifyOp) (m : UInt8) : UInt8 :=
  match op with
  | .neg => 0 - m
  | .com => ~~~m
  | .lsr => m >>> 1
  | .ror => (m >>> 1) ||| if cpu.flag .carry then 0x80 else 0
  | .asr => (m >>> 1) ||| (m &&& 0x80)
  | .lsl => m <<< 1
  | .rol => (m <<< 1) ||| cpu.carryIn
  | .dec => m - 1
  | .inc => m + 1
  | .tst => m
  | .clr => 0

/-- The carry flag after a read-modify-write operation on `m`: the bit shifted out, and unchanged
by operations that shift nothing. -/
def modifiedCarry (cpu : Cpu) (op : ModifyOp) (m : UInt8) : Bool :=
  match op with
  | .neg => m ≠ 0
  | .com => true
  | .lsr | .ror | .asr => m &&& 0x01 ≠ 0
  | .lsl | .rol => m &&& 0x80 ≠ 0
  | .dec | .inc | .tst | .clr => cpu.flag .carry

/-- A read-modify-write operation: its result and the registers after it. -/
def modify (cpu : Cpu) (op : ModifyOp) (m : UInt8) : UInt8 × Cpu :=
  let result := cpu.modified op m
  (result, (cpu.setFlag .carry (cpu.modifiedCarry op m)).setSignZero result)

/-- The product of accumulator and index register, high byte in the index register. Half carry
and carry are cleared. -/
def multiply (cpu : Cpu) : Cpu :=
  let product := cpu.x.toUInt16 * cpu.a.toUInt16
  ({ cpu with x := Half.high.byteOf product, a := product.toUInt8 }.setFlag .halfCarry false).setFlag
    .carry false

end M68HC05.Cpu
