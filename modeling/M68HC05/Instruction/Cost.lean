import M68HC05.Instruction.Decode

/-!
What an instruction costs: its length in bytes, opcode included, and its machine cycles. Both
follow from the decoded form. An illegal opcode is one byte long, has no entry in the cycle table
and is charged two cycles; no instruction is free (`Instruction.cycles_pos`).
-/

namespace M68HC05

/-- Operand bytes after the opcode. -/
def Operand.size : Operand → Nat
  | .immediate => 1
  | .direct => 1
  | .extended => 2
  | .indexedWord => 2
  | .indexedByte => 1
  | .indexed => 0

/-- Cycles of a register operation by addressing mode. -/
def Operand.cycles : Operand → Nat
  | .immediate => 2
  | .direct => 3
  | .extended => 4
  | .indexedWord => 5
  | .indexedByte => 4
  | .indexed => 3

/-- Operand bytes after the opcode. -/
def Target.size : Target → Nat
  | .direct => 1
  | .accumulator => 0
  | .index => 0
  | .indexedByte => 1
  | .indexed => 0

/-- Cycles of a read-modify-write operation; a test in memory saves the write. -/
def Target.cycles (target : Target) (op : ModifyOp) : Nat :=
  match target with
  | .accumulator => 3
  | .index => 3
  | .direct => if op = .tst then 4 else 5
  | .indexed => if op = .tst then 4 else 5
  | .indexedByte => if op = .tst then 5 else 6

namespace Instruction

/-- Cycles charged for an illegal opcode. -/
def illegalCycles : Nat := 2

/-- Bytes an instruction takes in memory. -/
def size : Instruction → Nat
  | brset _ => 3
  | brclr _ => 3
  | bset _ => 2
  | bclr _ => 2
  | branch _ => 2
  | bsr => 2
  | modify _ target => 1 + target.size
  | register _ operand => 1 + operand.size
  | sta operand => 1 + operand.size
  | stx operand => 1 + operand.size
  | jmp operand => 1 + operand.size
  | jsr operand => 1 + operand.size
  | _ => 1

/-- Cycles by the opcode table, which has no entry for an illegal opcode. -/
def cycles? : Instruction → Option Nat
  | brset _ => some 5
  | brclr _ => some 5
  | bset _ => some 5
  | bclr _ => some 5
  | branch _ => some 3
  | bsr => some 6
  | modify op target => some (target.cycles op)
  | mul => some 11
  | register _ operand => some operand.cycles
  | sta operand => some (operand.cycles + 1)
  | stx operand => some (operand.cycles + 1)
  | jmp operand => some (operand.cycles - 1)
  | jsr operand => some (operand.cycles + 2)
  | rti => some 9
  | rts => some 6
  | swi => some 10
  | illegal _ => none
  | _ => some 2

/-- Cycles an instruction is charged when it runs. -/
def cycles (instruction : Instruction) : Nat :=
  instruction.cycles?.getD illegalCycles

theorem cycles_pos (instruction : Instruction) : 0 < instruction.cycles := by
  cases instruction with
  | modify op target => cases op <;> cases target <;> exact Nat.succ_pos _
  | register _ operand => cases operand <;> exact Nat.succ_pos _
  | sta operand => cases operand <;> exact Nat.succ_pos _
  | stx operand => cases operand <;> exact Nat.succ_pos _
  | jmp operand => cases operand <;> exact Nat.succ_pos _
  | jsr operand => cases operand <;> exact Nat.succ_pos _
  | _ => exact Nat.succ_pos _

end Instruction
end M68HC05
