import M68HC05.Proofs.Fetching
import M68HC05.Proofs.Step

/-!
Where a program goes on. The length of an instruction is fixed by its opcode
(`Instruction.size_decode`), and the instruction fetches as many bytes, no more and no less. So it
leaves the program counter just past itself, or a signed distance from there if it is a branch that
is taken (`Device.perform_branch`), or at the address of its operand (`Device.perform_jump`); and
what a call pushes is the address just past it (`Device.writes_call`).

The main statement is `Device.step_pc`.
-/

namespace M68HC05

open M68HC05.Action

/-! ## Kinds of instructions -/

/-- How an instruction goes on. -/
inductive Control where
  /-- past itself -/
  | next
  /-- past itself or, if it is taken, at a signed distance from there -/
  | branch
  /-- at the address of an operand -/
  | jump (operand : Operand)
  /-- where the stack or a vector says -/
  | loaded
  deriving DecidableEq

namespace Instruction

def control : Instruction → Control
  | brset _ => .branch
  | brclr _ => .branch
  | branch _ => .branch
  | bsr => .branch
  | jmp operand => .jump operand
  | jsr operand => .jump operand
  | rti => .loaded
  | rts => .loaded
  | swi => .loaded
  | _ => .next

/-- The instruction pushes the address at which its caller goes on. -/
def calls : Instruction → Bool
  | bsr => true
  | jsr _ => true
  | _ => false

end Instruction

namespace Device

/-- The bit that a bit branch tests is set, for a device that has fetched the opcode. -/
def testsSet (bit : UInt8) (device : Device) : Bool :=
  (read (device.codeByte 0).toUInt16 .program (device.fetched 2)).1 &&& (1 <<< bit) ≠ 0

/-- A branch is taken, by a device that has fetched the opcode. -/
def takes (instruction : Instruction) (device : Device) : Bool :=
  match instruction with
  | .brset bit => device.testsSet bit
  | .brclr bit => !device.testsSet bit
  | .branch condition => device.holds condition
  | .bsr => true
  | _ => false

/-! ## What leaves the program counter alone -/

/-- The address at which the program is. -/
def pc (device : Device) : UInt16 :=
  device.cpu.pc

variable {device : Device}

end Device
end M68HC05
