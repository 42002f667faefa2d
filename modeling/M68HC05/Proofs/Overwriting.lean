import M68HC05.Proofs.Restoration
import M68HC05.Proofs.SavedState

/-!
What a restored device keeps of the device that it was. Every register comes from the snapshot, and
so does every byte of memory that the stored image reaches; the decoder takes images of any length,
and the bytes beyond a short one stay (`Memory.read_overlay`). So two devices of the same bonded pins
are told apart after restoring one snapshot into both exactly if their memories differed beyond the
image (`Device.restored_alike`).
-/

namespace M68HC05

open M68HC05.Action

/-! ## Images over memory -/

namespace Memory

/-- Memories with the same bytes are the same. -/
theorem eq_of_read {first second : Memory} (same : ∀ address : UInt16,
    address.toNat < addressSpace → first.read address = second.read address) : first = second := by
  obtain ⟨first⟩ := first
  obtain ⟨second⟩ := second
  refine congrArg mk (Vector.ext fun i inside => ?_)
  have place : (UInt16.ofNat i).toNat = i :=
    UInt16.toNat_ofNat_of_lt' (Nat.lt_trans inside (by decide))
  have equal := same (UInt16.ofNat i) (by rw [place]; exact inside)
  unfold read at equal
  simp only [place, inside, dite_true] at equal
  exact equal

/-- Under an image a byte is that of the image, or the one before where the image does not reach. -/
theorem read_overlay_from (memory : Memory) (start : Nat) (image : Array UInt8) {address : UInt16}
    (inside : address.toNat < addressSpace) :
    (memory.overlay start image).read address =
      if _ : start ≤ address.toNat ∧ address.toNat - start < image.size then
        image[address.toNat - start]
      else memory.read address := by
  unfold read overlay
  rw [dif_pos inside, dif_pos inside, Vector.getElem_ofFn]
  rfl

/-- An image that is laid over the memory from the start. -/
theorem read_overlay (memory : Memory) (image : Array UInt8) {address : UInt16}
    (inside : address.toNat < addressSpace) :
    (memory.overlay 0 image).read address =
      (image[address.toNat]?).getD (memory.read address) := by
  rw [read_overlay_from memory 0 image inside]
  by_cases covered : address.toNat < image.size
  · rw [dif_pos ⟨Nat.zero_le _, covered⟩, Array.getElem?_eq_getElem covered]
    rfl
  · rw [dif_neg fun both => covered both.2, Array.getElem?_eq_none (Nat.not_lt.mp covered)]
    rfl

theorem image_injective {first second : Memory} (same : first.image = second.image) :
    first = second := by
  have bytes : first.bytes = second.bytes :=
    Vector.toArray_inj.mp (congrArg ByteString.toArray same)
  exact congrArg mk bytes

end Memory

namespace Device

variable {d e : Device}

/-- An image is loaded as a whole or not at all. -/
theorem loadImage_eq (device : Device) (offset : UInt16) (image : Array UInt8) :
    device.loadImage offset image =
      if offset.toNat + image.size ≤ addressSpace then
        .ok { device with memory := device.memory.overlay offset.toNat image }
      else .error (.imageOverflow offset image.size) := by
  unfold loadImage Memory.load?
  by_cases fits : offset.toNat + image.size ≤ addressSpace
  · rw [if_pos fits, if_pos fits]
  · rw [if_neg fits, if_neg fits]

/-- A snapshot tells the memory. -/
theorem memory_of_snapshot (same : d.snapshot = e.snapshot) : d.memory = e.memory :=
  Memory.image_injective (congrArg Snapshot.bytes same)

/-! ## Two devices and one snapshot -/

theorem restoredPorts_alike (bonded : ∀ index : PortIndex,
      (d.ports.get index).bonded = (e.ports.get index).bonded) (registers : PortRegisters) :
    d.restoredPorts registers = e.restoredPorts registers := by
  apply Vector.ext
  intro i inside
  let index : PortIndex := ⟨i, inside⟩
  have first := restoredPorts_get d registers index
  have second := restoredPorts_get e registers index
  refine first.trans (Eq.trans ?_ second.symm)
  unfold Port.setDirection Port.setLatch Port.setInput
  dsimp only
  rw [bonded index]

/-- Beside the memory, restored devices are the same guest. -/
theorem guest_restored_alike (bonded : ∀ index : PortIndex,
      (d.ports.get index).bonded = (e.ports.get index).bonded) (snapshot : Snapshot) :
    { (restore snapshot d).2.guest with memory := (restore snapshot e).2.memory } =
      (restore snapshot e).2.guest := by
  have ports : (restore snapshot d).2.ports = (restore snapshot e).2.ports :=
    restoredPorts_alike bonded snapshot.ports
  change { (restore snapshot e).2.guest with ports := (restore snapshot d).2.ports } = _
  rw [ports]
  rfl

/-- Restore one snapshot, of any length, into two devices with the same bonded pins. Beside the
memory they are the same guest then, with the same budget. Each byte of the memory is that of the
stored image, or the one before where the image does not reach. So snapshots of the two devices are
the same exactly if the memories were the same beyond the image, and always if the image covers the
memory. -/
theorem restored_alike (snapshot : Snapshot) (bonded : ∀ index : PortIndex,
      (d.ports.get index).bonded = (e.ports.get index).bonded) :
    let first := (restore snapshot d).2
    let second := (restore snapshot e).2
    let length := snapshot.bytes.toArray.size
    { first.guest with memory := second.memory } = second.guest ∧
    first.budget = second.budget ∧
    (∀ address : UInt16, address.toNat < addressSpace →
      first.memory.read address =
        (snapshot.bytes.toArray[address.toNat]?).getD (d.memory.read address)) ∧
    (first.snapshot = second.snapshot ↔
      ∀ address : UInt16, length ≤ address.toNat → address.toNat < addressSpace →
        d.memory.read address = e.memory.read address) ∧
    (addressSpace ≤ length → first.snapshot = second.snapshot) := by
  intro first second length
  have guest := guest_restored_alike bonded snapshot
  have read (device : Device) {address : UInt16} (inside : address.toNat < addressSpace) :
      (restore snapshot device).2.memory.read address =
        (snapshot.bytes.toArray[address.toNat]?).getD (device.memory.read address) :=
    device.memory.read_overlay snapshot.bytes.toArray inside
  have differ : first.snapshot = second.snapshot ↔
      ∀ address : UInt16, length ≤ address.toNat → address.toNat < addressSpace →
        d.memory.read address = e.memory.read address := by
    constructor
    · intro same address beyond inside
      have memory : first.memory = second.memory := memory_of_snapshot same
      have kept := (read d inside).symm.trans ((congrArg (·.read address) memory).trans
        (read e inside))
      rw [Array.getElem?_eq_none beyond] at kept
      exact kept
    · intro same
      have memory : first.memory = second.memory := by
        refine Memory.eq_of_read fun address inside => ?_
        refine (read d inside).trans (Eq.trans ?_ (read e inside).symm)
        by_cases covered : address.toNat < length
        · rw [Array.getElem?_eq_getElem covered]
          rfl
        · rw [same address (Nat.not_lt.mp covered) inside]
      have whole : first.guest = second.guest := by
        rw [← guest, ← memory]
        rfl
      exact snapshot_of_guest whole rfl
  refine ⟨guest, rfl, fun address inside => read d inside, differ, fun covers => ?_⟩
  refine differ.mpr fun address beyond inside => ?_
  exact absurd inside (Nat.not_lt.mpr (Nat.le_trans covers beyond))

/-- A new part with one byte in its RAM. -/
def holding (byte : UInt8) : Device :=
  { new .c4 4000000 with memory := Memory.zero.write 0x0060 byte }

theorem holding_read (byte : UInt8) : (holding byte).memory.read 0x0060 = byte :=
  Memory.zero.read_write_self 0x0060 byte (by decide)

/-- Two parts that hold different bytes are told apart before a snapshot of a third is restored into
both, and no more after that. -/
theorem restored_alike_of_new :
    let stored := (new .c4 1000000).snapshot
    (holding 0xAA).snapshot ≠ (holding 0xBB).snapshot ∧
      (restore stored (holding 0xAA)).2.snapshot = (restore stored (holding 0xBB)).2.snapshot := by
  intro stored
  have bonded (index : PortIndex) : ((holding 0xAA).ports.get index).bonded =
      ((holding 0xBB).ports.get index).bonded := rfl
  have covers : addressSpace ≤ stored.bytes.toArray.size := by
    have size : stored.bytes.toArray.size = addressSpace := Vector.size_toArray _
    exact Nat.le_of_eq size.symm
  obtain ⟨-, -, -, -, alike⟩ := restored_alike stored bonded
  refine ⟨fun same => ?_, alike covers⟩
  have byte := congrArg (·.read 0x0060) (memory_of_snapshot same)
  rw [holding_read, holding_read] at byte
  exact absurd byte (by decide)

/-- A snapshot without a memory image. -/
def imageless : Snapshot :=
  { (new .c4 4000000).snapshot with bytes := .front [] 0 }

/-- Its saved state is accepted, and restoring it leaves two parts apart that held different
bytes. -/
theorem restored_apart_of_imageless :
    Snapshot.decode (imageless.encode .c4) .c4 = .ok imageless ∧
      (holding 0xAA).variant = .c4 ∧ (holding 0xBB).variant = .c4 ∧
      (∀ index : PortIndex, ((holding 0xAA).ports.get index).bonded =
        ((holding 0xBB).ports.get index).bonded) ∧
      (restore imageless (holding 0xAA)).2.snapshot ≠
        (restore imageless (holding 0xBB)).2.snapshot := by
  have decoded := Snapshot.decode_encode Deflate.expand_compress imageless .c4 .c4
  rw [if_pos rfl] at decoded
  refine ⟨decoded, rfl, rfl, fun _ => rfl, fun same => ?_⟩
  have byte := congrArg (·.read 0x0060) (memory_of_snapshot same)
  have uncovered : imageless.bytes.toArray[(0x0060 : UInt16).toNat]? = none := rfl
  have read (device : Device) : (restore imageless device).2.memory.read 0x0060 =
      device.memory.read 0x0060 := by
    refine (device.memory.read_overlay imageless.bytes.toArray (by decide)).trans ?_
    rw [uncovered]
    rfl
  rw [read, read, holding_read, holding_read] at byte
  exact absurd byte (by decide)

end Device
end M68HC05
