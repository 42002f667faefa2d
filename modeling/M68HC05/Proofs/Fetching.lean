import M68HC05.Instruction.Cost
import M68HC05.Proofs.Resumption

/-!
The bytes of an instruction. `Device.fetched` is a device that has fetched some bytes, and
`Device.codeByte` a byte that it fetches next. Fetching moves the program counter over one byte
after the other, around the end of the address space, and leaves the other registers alone; so an
operand takes as many bytes as its size says (`Device.operandAddress_cpu`), and its address follows
from them and the index register (`Device.toNat_operandAddress`).
-/

namespace M68HC05

open M68HC05.Action

theorem Cpu.toNat_nextPc (cpu : Cpu) :
    cpu.nextPc.toNat = (cpu.pc.toNat + 1) % addressSpace := by
  have one : (1 : UInt16).toNat = 1 := rfl
  rw [nextPc, toNat_busAddress, UInt16.toNat_add, one]
  exact Nat.mod_mod_of_dvd _ (by decide)

namespace Device

/-- The device after it has fetched some bytes. -/
def fetched : Nat → Device → Device
  | 0, device => device
  | count + 1, device => fetched count (fetch device).2

/-- The byte that is fetched after some others. Of the device at the beginning of an instruction it
is the byte of the instruction at that place. -/
def codeByte (place : Nat) (device : Device) : UInt8 :=
  (fetch (device.fetched place)).1

theorem fetch_cpu (device : Device) :
    (fetch device).2.cpu = { device.cpu with pc := device.cpu.nextPc } :=
  device.fetch_core.2

/-- Fetching changes the program counter only. -/
theorem fetched_cpu (count : Nat) (device : Device) : (device.fetched count).cpu =
    { device.cpu with pc := (device.fetched count).cpu.pc } := by
  induction count generalizing device with
  | zero => rfl
  | succ count ih =>
    have rest := ih (fetch device).2
    rw [fetch_cpu] at rest
    exact rest

/-- Fetching leaves the memory as it is. -/
theorem fetched_memory (count : Nat) (device : Device) :
    (device.fetched count).memory = device.memory := by
  induction count generalizing device with
  | zero => rfl
  | succ count ih => exact (ih (fetch device).2).trans device.fetch_core.1

/-- The bytes are fetched from one address after the other, around the end of the space. -/
theorem toNat_pc_fetched (count : Nat) {device : Device}
    (inside : device.cpu.pc.toNat < addressSpace) :
    (device.fetched count).cpu.pc.toNat = (device.cpu.pc.toNat + count) % addressSpace := by
  induction count generalizing device with
  | zero => exact (Nat.mod_eq_of_lt inside).symm
  | succ count ih =>
    have first : (fetch device).2.cpu.pc.toNat = (device.cpu.pc.toNat + 1) % addressSpace := by
      rw [fetch_cpu]
      exact device.cpu.toNat_nextPc
    have moved : (fetch device).2.cpu.pc.toNat < addressSpace := by
      rw [first]
      exact Nat.mod_lt _ (by decide)
    refine (ih moved).trans ?_
    rw [first, Nat.mod_add_mod, Nat.add_assoc, Nat.add_comm 1]

/-- A program that is beyond the end of the space fetches as if it were inside. -/
theorem toNat_pc_fetched_mod (count : Nat) (device : Device) :
    (device.fetched count).cpu.pc.toNat % addressSpace =
      (device.cpu.pc.toNat + count) % addressSpace := by
  cases count with
  | zero => rfl
  | succ count =>
    have first : (fetch device).2.cpu.pc.toNat = (device.cpu.pc.toNat + 1) % addressSpace := by
      rw [fetch_cpu]
      exact device.cpu.toNat_nextPc
    have inside : (fetch device).2.cpu.pc.toNat < addressSpace := by
      rw [first]
      exact Nat.mod_lt _ (by decide)
    have rest : (device.fetched (count + 1)).cpu.pc.toNat =
        ((fetch device).2.cpu.pc.toNat + count) % addressSpace := toNat_pc_fetched count inside
    rw [rest, first, Nat.mod_mod, Nat.mod_add_mod, Nat.add_assoc, Nat.add_comm 1]

/-! ## Operands -/

/-- Finding an operand passes its bytes and leaves the other registers alone. -/
theorem operandAddress_cpu (operand : Operand) (device : Device) :
    (operandAddress operand device).2.cpu = (device.fetched operand.size).cpu := by
  cases operand with
  | immediate => exact device.fetch_cpu.symm
  | direct => rfl
  | extended => rfl
  | indexedWord => rfl
  | indexedByte => rfl
  | indexed => rfl

theorem operandAddress_memory (operand : Operand) (device : Device) :
    (operandAddress operand device).2.memory = device.memory := by
  cases operand with
  | immediate => rfl
  | direct => exact device.fetched_memory 1
  | extended => exact device.fetched_memory 2
  | indexedWord => exact device.fetched_memory 2
  | indexedByte => exact device.fetched_memory 1
  | indexed => rfl

/-- A register operation acts on the registers past its operand with a byte that it reads. -/
theorem perform_register_cpu (op : RegisterOp) (operand : Operand) (device : Device) :
    ∃ m, (perform (.register op operand) device).2.cpu =
      (device.fetched operand.size).cpu.operate op m := by
  have place := operandAddress_cpu operand device
  have seen := read_cpu (operandAddress operand device).1 .program (operandAddress operand device).2
  refine ⟨(read (operandAddress operand device).1 .program (operandAddress operand device).2).1, ?_⟩
  rw [← place, ← seen]
  rfl

/-- A store sets two flags by the byte that it stores. -/
theorem storeRegister_cpu (operand : Operand) (register : Cpu → UInt8) (device : Device) :
    (storeRegister operand register device).2.cpu =
      (device.fetched operand.size).cpu.setSignZero
        (register (device.fetched operand.size).cpu) := by
  have place := operandAddress_cpu operand device
  have stored := write_cpu (operandAddress operand device).1
    (register (operandAddress operand device).2.cpu) .program (operandAddress operand device).2
  rw [← place]
  exact congrArg (Cpu.setSignZero · (register (operandAddress operand device).2.cpu)) stored

end Device
end M68HC05
