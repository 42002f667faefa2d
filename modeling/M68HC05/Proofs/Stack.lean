import M68HC05.Proofs.CpuRange
import M68HC05.Proofs.Writes

/-!
The stack. Its 64 bytes of RAM are a ring in which a push goes one place down and a pull one place
up; `Cpu.slot` numbers the places from a stack pointer down. As long as no more is pushed than the
ring holds, each byte has a slot of its own, so that pushes change these slots only
(`Memory.read_pushes_off`) and leave each byte in its slot (`Memory.read_pushes_slot`). Pulls take
them out again by the same numbers (`Device.pull_slot`).
-/

namespace M68HC05

open M68HC05.Action

/-! ## The ring -/

namespace Cpu

/-- The stack address that a number of pushes lead to. -/
def slot (sp : UInt16) (depth : Nat) : UInt16 :=
  stackAddress (sp - UInt16.ofNat depth)

variable (sp : UInt16) (depth : Nat)

theorem toNat_slot :
    (slot sp depth).toNat = 0x00C0 + (sp.toNat + (0x10000 - depth % 0x10000)) % 64 := by
  have pushed : (UInt16.ofNat depth).toNat = depth % 0x10000 := UInt16.toNat_ofNat'
  rw [slot, toNat_stackAddress, UInt16.toNat_sub, pushed]
  omega

/-- The place of the next push. -/
theorem slot_below : stackAddress (slot sp depth - 1) = slot sp (depth + 1) := by
  apply UInt16.toNat_inj.mp
  have one : (1 : UInt16).toNat = 1 := rfl
  rw [toNat_stackAddress, UInt16.toNat_sub, one, toNat_slot, toNat_slot]
  omega

/-- The place of the next pull. -/
theorem slot_above : stackAddress (slot sp (depth + 1) + 1) = slot sp depth := by
  apply UInt16.toNat_inj.mp
  have one : (1 : UInt16).toNat = 1 := rfl
  rw [toNat_stackAddress, UInt16.toNat_add, one, toNat_slot, toNat_slot]
  omega

/-- A stack pointer in its range is its own first slot. -/
theorem InRange.slot_zero {cpu : Cpu} (range : cpu.InRange) : slot cpu.sp 0 = cpu.sp := by
  have floor := range.floor
  have top := range.top
  apply UInt16.toNat_inj.mp
  rw [toNat_slot]
  omega

theorem slot_bounds : 0x00C0 ≤ slot sp depth ∧ slot sp depth ≤ 0x00FF := by
  simp only [UInt16.le_iff_toNat_le, toNat_slot, UInt16.reduceToNat]
  omega

/-- The ring has 64 places. -/
theorem slot_inj {sp : UInt16} {first second : Nat} (low : first < 64) (high : second < 64)
    (same : slot sp first = slot sp second) : first = second := by
  have places := congrArg UInt16.toNat same
  rw [toNat_slot, toNat_slot] at places
  omega

theorem busAddress_slot : busAddress (slot sp depth) = slot sp depth := by
  apply UInt16.toNat_inj.mp
  rw [toNat_busAddress, toNat_slot]
  unfold addressSpace
  omega

theorem inRam_slot : inRam (slot sp depth) = true := by
  rw [inRam_iff, toNat_slot]
  omega

end Cpu

/-! ## Pushes -/

namespace Device

/-- The writes of pushing bytes, by their slots. -/
def slotWrites (sp : UInt16) (depth : Nat) (bytes : List UInt8) : List BusWrite :=
  bytes.mapIdx fun index byte => ⟨Cpu.slot sp (depth + index), byte⟩

/-- Bytes are pushed to one slot after the other. -/
theorem pushes_slot (sp : UInt16) (depth : Nat) (bytes : List UInt8) :
    pushes (Cpu.slot sp depth) bytes = slotWrites sp depth bytes := by
  induction bytes generalizing depth with
  | nil => rfl
  | cons byte bytes ih =>
    rw [pushes, Cpu.busAddress_slot, Cpu.slot_below, ih, slotWrites, slotWrites, List.mapIdx_cons]
    simp only [Nat.add_assoc, Nat.add_comm 1, Nat.add_zero]

end Device

namespace Memory

/-- Writes elsewhere leave a byte alone. -/
theorem read_takeAll_of_ne (memory : Memory) {writes : List BusWrite} {address : UInt16}
    (elsewhere : ∀ write ∈ writes, write.address ≠ address) :
    (memory.takeAll writes).read address = memory.read address := by
  induction writes generalizing memory with
  | nil => rfl
  | cons write writes ih =>
    have first := elsewhere write List.mem_cons_self
    have rest := fun later member => elsewhere later (List.mem_cons_of_mem write member)
    exact (ih (memory.take write) rest).trans (memory.read_take_of_ne first)

/-- Of writes to different addresses of RAM, each is there in the end. -/
theorem read_takeAll_of_mem (memory : Memory) {writes : List BusWrite}
    (apart : (writes.map (·.address)).Nodup) {write : BusWrite} (member : write ∈ writes)
    (ram : inRam write.address = true) :
    (memory.takeAll writes).read write.address = write.byte := by
  induction writes generalizing memory with
  | nil => cases member
  | cons first writes ih =>
    obtain ⟨fresh, apart⟩ := List.nodup_cons.mp apart
    rcases List.mem_cons.mp member with rfl | later
    · have elsewhere : ∀ other ∈ writes, other.address ≠ write.address :=
        fun other member same => fresh (List.mem_map.mpr ⟨other, member, same⟩)
      exact (read_takeAll_of_ne _ elsewhere).trans (memory.read_take_self ram)
    · exact ih (memory.take first) apart later

variable (memory : Memory) (sp : UInt16) (bytes : List UInt8)

/-- Pushes change their slots only. -/
theorem read_pushes_off {address : UInt16}
    (off : ∀ depth < bytes.length, address ≠ Cpu.slot sp depth) :
    (memory.takeAll (Device.pushes (Cpu.slot sp 0) bytes)).read address = memory.read address := by
  refine memory.read_takeAll_of_ne fun write member => ?_
  rw [Device.pushes_slot, Device.slotWrites, List.mem_mapIdx] at member
  obtain ⟨depth, inside, rfl⟩ := member
  rw [Nat.zero_add]
  exact (off depth inside).symm

/-- Pushes that the ring has room for leave each byte in its slot. -/
theorem read_pushes_slot (room : bytes.length ≤ 64) {depth : Nat} (inside : depth < bytes.length) :
    (memory.takeAll (Device.pushes (Cpu.slot sp 0) bytes)).read (Cpu.slot sp depth) =
      bytes[depth] := by
  rw [Device.pushes_slot]
  have apart : ((Device.slotWrites sp 0 bytes).map (·.address)).Nodup := by
    rw [List.Nodup, List.pairwise_iff_getElem]
    intro first second low high before
    simp only [Device.slotWrites, List.length_map, List.length_mapIdx] at low high
    simp only [Device.slotWrites, List.getElem_map, List.getElem_mapIdx, Nat.zero_add]
    intro same
    have meet := Cpu.slot_inj (by omega) (by omega) same
    omega
  have member : ⟨Cpu.slot sp depth, bytes[depth]⟩ ∈ Device.slotWrites sp 0 bytes := by
    refine List.mem_mapIdx.mpr ⟨depth, inside, ?_⟩
    rw [Nat.zero_add]
  exact memory.read_takeAll_of_mem apart member (Cpu.inRam_slot sp depth)

end Memory

/-! ## Pulls -/

namespace Device

/-- A program read of RAM answers the byte that is there. -/
theorem read_ram (device : Device) {address : UInt16} (ram : inRam (busAddress address) = true) :
    (read address .program device).1 = device.memory.read (busAddress address) := by
  rw [read_value, (device.variant.goes_to_ram ram).1]
  rfl

/-- Program reads leave the memory as it is. -/
theorem read_memory (address : UInt16) (device : Device) :
    (read address .program device).2.memory = device.memory :=
  (Wrote.readFlow.read address device).memory

/-- A pull takes the byte of the slot above and moves up to it. -/
theorem pull_slot {device : Device} {sp : UInt16} {depth : Nat}
    (lies : device.cpu.sp = Cpu.slot sp (depth + 1)) :
    (pull device).1 = device.memory.read (Cpu.slot sp depth) ∧
      (pull device).2.memory = device.memory ∧
      (pull device).2.cpu = { device.cpu with sp := Cpu.slot sp depth } := by
  have raised : device.raised.cpu.sp = Cpu.slot sp depth := by
    rw [← Cpu.slot_above, ← lies]
    rfl
  have place := Cpu.busAddress_slot sp depth
  have inside : inRam (busAddress (Cpu.slot sp depth)) = true := by
    rw [place]
    exact Cpu.inRam_slot sp depth
  have value := device.raised.read_ram inside
  have registers := read_cpu device.raised.cpu.sp .program device.raised
  rw [place, ← raised] at value
  refine ⟨value.trans ?_, read_memory _ device.raised, registers.trans ?_⟩
  · rw [raised]
    rfl
  · rw [← raised]
    rfl

end Device
end M68HC05
