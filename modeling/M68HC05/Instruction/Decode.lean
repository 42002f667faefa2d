import M68HC05.Instruction

/-!
The opcode map: the high four bits of an opcode name a row, which fixes the addressing mode, and
the low four bits a column, which fixes the operation. Every byte decodes; bytes outside the set
decode to `Instruction.illegal`.
-/

namespace M68HC05

/-- Conditions of the branch row by column. -/
def Condition.ofColumn (column : UInt8) : Condition :=
  match column with
  | 0x0 => .always
  | 0x1 => .never
  | 0x2 => .higher
  | 0x3 => .lowerOrSame
  | 0x4 => .carryClear
  | 0x5 => .carrySet
  | 0x6 => .notEqual
  | 0x7 => .equal
  | 0x8 => .halfCarryClear
  | 0x9 => .halfCarrySet
  | 0xA => .plus
  | 0xB => .minus
  | 0xC => .maskClear
  | 0xD => .maskSet
  | 0xE => .lineLow
  | _ => .lineHigh

/-- Operations of the read-modify-write rows by column; five columns are empty. -/
def ModifyOp.ofColumn? (column : UInt8) : Option ModifyOp :=
  match column with
  | 0x0 => some .neg
  | 0x3 => some .com
  | 0x4 => some .lsr
  | 0x6 => some .ror
  | 0x7 => some .asr
  | 0x8 => some .lsl
  | 0x9 => some .rol
  | 0xA => some .dec
  | 0xC => some .inc
  | 0xD => some .tst
  | 0xF => some .clr
  | _ => none

/-- Operands of the register rows, from row A on. -/
def Operand.ofRow (row : UInt8) : Operand :=
  match row with
  | 0xA => .immediate
  | 0xB => .direct
  | 0xC => .extended
  | 0xD => .indexedWord
  | 0xE => .indexedByte
  | _ => .indexed

namespace Instruction

/-- The read-modify-write rows 3 to 7. -/
def ofModify (opcode column : UInt8) (target : Target) : Instruction :=
  match ModifyOp.ofColumn? column with
  | some op => .modify op target
  | none => .illegal opcode

/-- Rows 8 and 9: instructions without an operand. -/
def ofInherent (opcode : UInt8) : Instruction :=
  match opcode with
  | 0x80 => .rti
  | 0x81 => .rts
  | 0x83 => .swi
  | 0x8E => .stop
  | 0x8F => .wait
  | 0x97 => .tax
  | 0x98 => .clc
  | 0x99 => .sec
  | 0x9A => .cli
  | 0x9B => .sei
  | 0x9C => .rsp
  | 0x9D => .nop
  | 0x9F => .txa
  | _ => .illegal opcode

/-- Rows A to F: register operations, stores and jumps. An immediate operand cannot be stored
to or jumped to, so three opcodes of row A are illegal and its fourth is `BSR`. -/
def ofRegister (opcode column : UInt8) (operand : Operand) : Instruction :=
  match column with
  | 0x0 => .register .sub operand
  | 0x1 => .register .cmp operand
  | 0x2 => .register .sbc operand
  | 0x3 => .register .cpx operand
  | 0x4 => .register .and operand
  | 0x5 => .register .bit operand
  | 0x6 => .register .lda operand
  | 0x7 => if operand = .immediate then .illegal opcode else .sta operand
  | 0x8 => .register .eor operand
  | 0x9 => .register .adc operand
  | 0xA => .register .ora operand
  | 0xB => .register .add operand
  | 0xC => if operand = .immediate then .illegal opcode else .jmp operand
  | 0xD => if operand = .immediate then .bsr else .jsr operand
  | 0xE => .register .ldx operand
  | _ => if operand = .immediate then .illegal opcode else .stx operand

/-- The instruction that an opcode byte stands for. -/
def decode (opcode : UInt8) : Instruction :=
  let row := opcode / 16
  let column := opcode % 16
  match row with
  | 0x0 => if column % 2 = 0 then .brset (column / 2) else .brclr (column / 2)
  | 0x1 => if column % 2 = 0 then .bset (column / 2) else .bclr (column / 2)
  | 0x2 => .branch (.ofColumn column)
  | 0x3 => ofModify opcode column .direct
  | 0x4 => if column = 2 then .mul else ofModify opcode column .accumulator
  | 0x5 => ofModify opcode column .index
  | 0x6 => ofModify opcode column .indexedByte
  | 0x7 => ofModify opcode column .indexed
  | 0x8 => ofInherent opcode
  | 0x9 => ofInherent opcode
  | _ => ofRegister opcode column (.ofRow row)

end Instruction
end M68HC05
