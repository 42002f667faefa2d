/-!
The instructions of the M68HC05: the 6805 set with `MUL`. An instruction is the meaning of one
opcode byte; its operand bytes are fetched while it runs. `Instruction.Decode` reads an opcode,
`Instruction.Cost` says how many bytes and cycles an instruction takes.
-/

namespace M68HC05

/-- Where a register or jump instruction finds its operand. -/
inductive Operand where
  | immediate
  | direct
  | extended
  /-- index register plus a sixteen-bit offset -/
  | indexedWord
  /-- index register plus an eight-bit offset -/
  | indexedByte
  | indexed
  deriving DecidableEq

/-- What a read-modify-write instruction changes. -/
inductive Target where
  | direct
  | accumulator
  | index
  | indexedByte
  | indexed
  deriving DecidableEq

/-- Operations of the accumulator or index register with a byte from memory. -/
inductive RegisterOp where
  | sub | cmp | sbc | cpx | and | bit | lda | eor | adc | ora | add | ldx
  deriving DecidableEq

/-- Operations of the read-modify-write rows. -/
inductive ModifyOp where
  | neg | com | lsr | ror | asr | lsl | rol | dec | inc | tst | clr
  deriving DecidableEq

/-- Branch conditions in opcode order. -/
inductive Condition where
  | always | never | higher | lowerOrSame | carryClear | carrySet | notEqual | equal
  | halfCarryClear | halfCarrySet | plus | minus | maskClear | maskSet
  /-- the external interrupt line is asserted -/
  | lineLow
  /-- the external interrupt line is released -/
  | lineHigh
  deriving DecidableEq

/-- A decoded instruction. -/
inductive Instruction where
  | brset (bit : UInt8)
  | brclr (bit : UInt8)
  | bset (bit : UInt8)
  | bclr (bit : UInt8)
  | branch (condition : Condition)
  | bsr
  | modify (op : ModifyOp) (target : Target)
  | mul
  | register (op : RegisterOp) (operand : Operand)
  | sta (operand : Operand)
  | stx (operand : Operand)
  | jmp (operand : Operand)
  | jsr (operand : Operand)
  | rti | rts | swi | stop | wait
  | tax | txa | clc | sec | cli | sei | rsp | nop
  | illegal (opcode : UInt8)
  deriving DecidableEq

/-- Opcodes that the family does not define. -/
def Instruction.isIllegal : Instruction → Bool
  | .illegal _ => true
  | _ => false

end M68HC05
