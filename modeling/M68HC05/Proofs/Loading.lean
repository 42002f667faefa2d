import M68HC05.Proofs.SavedState
import M68HC05.Proofs.WellFormed
import M68HC05.Storage

/-!
Devices that are loaded from a saved state. The decoder takes any value of any field, so that what a
loaded device holds is for `Device.restore` to see to. It cuts the registers of the peripherals to
their bits and the outputs to the bonded pins, and takes the processor registers and the pending
mask as they come. A loaded device is well formed exactly if the saved state is fit for it
(`Device.loaded_wellFormed_iff`).
-/

namespace M68HC05

/-- The fields that restoring does not see to are in range: the processor registers, the pending
mask, and the direction of port D on the pins that are bonded. -/
structure Snapshot.FitFor (snapshot : Snapshot) (device : Device) : Prop where
  pc : snapshot.cpu.pc ≤ 0x1FFF
  stackFloor : 0x00C0 ≤ snapshot.cpu.sp
  stackTop : snapshot.cpu.sp ≤ 0x00FF
  cc : snapshot.cpu.cc ≤ 0x1F
  pending : snapshot.pending &&& 0x0003 = snapshot.pending
  portD : snapshot.ports.direction.get 3 &&& (device.ports.get 3).bonded = 0

namespace Device

variable {device after : Device}

/-! ## Restoring any snapshot -/

/-- The timer's request has a known line of its own, and the others are as they were. -/
theorem hasOnly_mirrored {pending : UInt16} {requests : Bool} :
    HasOnly pendingMask (mirrored pending requests) ↔ HasOnly pendingMask pending := by
  refine ⟨fun within => ?_, PeripheralsInRange.timerBit pending requests⟩
  have cleared := PeripheralsInRange.timerBit _ false within
  rw [mirrored_mirrored] at cleared
  have bit : HasOnly pendingMask InterruptLine.timer.bit := by decide
  -- the pending mask is put together from the timer's bit and the others
  have parts := and_or_left16 pending (~~~InterruptLine.timer.bit) InterruptLine.timer.bit
  rw [UInt16.not_or_self, UInt16.and_neg_one] at parts
  rw [parts]
  exact HasOnly.or16 cleared (bit.and_right pending)

theorem restore_pending (snapshot : Snapshot) (device : Device) :
    HasOnly pendingMask (restore snapshot device).2.pending ↔
      HasOnly pendingMask snapshot.pending :=
  hasOnly_mirrored

/-- The outputs of a restored port are those of the snapshot on the bonded pins. -/
theorem restore_port (snapshot : Snapshot) (device : Device) (index : PortIndex) :
    (restore snapshot device).2.ports.get index =
      (((device.ports.get index).setInput (snapshot.ports.input.get index)).setLatch
        (snapshot.ports.latch.get index)).setDirection (snapshot.ports.direction.get index) :=
  restoredPorts_get device snapshot.ports index

/-- The peripherals of a restored device are in range, with any snapshot. -/
theorem restore_peripherals (snapshot : Snapshot) (device : Device) :
    (restore snapshot device).2.timer.InRange ∧ (restore snapshot device).2.watchdog.InRange :=
  ⟨snapshot.timer.inRange_masked, snapshot.watchdog.inRange_masked.switchFixed _⟩

theorem restore_wellFormed_iff (snapshot : Snapshot) (device : Device) :
    (restore snapshot device).2.WellFormed ↔ snapshot.FitFor device := by
  have pending := restore_pending snapshot device
  have port := restore_port snapshot device
  have directionD : ((restore snapshot device).2.ports.get 3).direction =
      snapshot.ports.direction.get 3 &&& (device.ports.get 3).bonded :=
    congrArg Port.direction (port 3)
  constructor
  · intro wellFormed
    exact {
      pc := wellFormed.pc
      stackFloor := wellFormed.stackFloor
      stackTop := wellFormed.stackTop
      cc := wellFormed.cc
      pending := pending.mp wellFormed.pending
      portD := directionD.symm.trans wellFormed.portD }
  · intro fit
    obtain ⟨timer, watchdog⟩ := restore_peripherals snapshot device
    exact {
      pc := fit.pc
      stackFloor := fit.stackFloor
      stackTop := fit.stackTop
      cc := fit.cc
      timerControl := timer.control
      timerStatus := timer.status
      statusSeen := timer.seen
      prescaler := UInt8.le_iff_toNat_le.mpr (Nat.le_of_lt_succ timer.prescaler)
      watchdogControl := watchdog.control.le8
      programmableCount := UInt32.lt_iff_toNat_lt.mpr watchdog.programmableCount
      fixedCount := UInt32.lt_iff_toNat_lt.mpr watchdog.fixedCount
      pending := pending.mpr fit.pending
      image := Vector.size_toArray _
      portD := directionD.trans fit.portD
      settled := rfl
      outputs := by
        intro _ index
        rw [port index]
        exact HasOnly.cut _ _ }

/-! ## Loading -/

/-- A device is loaded by restoring the snapshot that the bytes hold. -/
theorem restoreBytes_ok_iff [Compressor] {bytes : List UInt8} :
    device.restoreBytes bytes = .ok after ↔
      ∃ snapshot, Snapshot.decode bytes device.variant = .ok snapshot ∧
        after = (restore snapshot device).2 := by
  unfold restoreBytes
  rcases Snapshot.decode bytes device.variant with failure | snapshot
  · simp
  · simp [eq_comm]

/-- Take any bytes that are accepted for the part of a device, with any compressor. The loaded device
has its timer and its watchdogs in range, no outputs beside the bonded pins and no reset left over,
and takes the processor registers from the snapshot as they are. So it is well formed exactly if the
snapshot is fit for the device. -/
theorem loaded_wellFormed_iff [Compressor] {bytes : List UInt8}
    (loaded : device.restoreBytes bytes = .ok after) :
    ∃ snapshot, Snapshot.decode bytes device.variant = .ok snapshot ∧
      after.timer.InRange ∧ after.watchdog.InRange ∧ after.Settled ∧
      (∀ index : PortIndex, HasOnly (after.ports.get index).bonded
        (after.ports.get index).direction) ∧
      after.cpu = snapshot.cpu ∧ (after.WellFormed ↔ snapshot.FitFor device) := by
  obtain ⟨snapshot, decoded, rfl⟩ := restoreBytes_ok_iff.mp loaded
  obtain ⟨timer, watchdog⟩ := restore_peripherals snapshot device
  refine ⟨snapshot, decoded, timer, watchdog, rfl, fun index => ?_, rfl,
    restore_wellFormed_iff snapshot device⟩
  rw [restore_port snapshot device index]
  exact HasOnly.cut _ _

/-- The saved state of a new device, loaded into another. -/
theorem loaded_wellFormed_of_new :
    ∃ after : Device,
      (new .c8a 4000000).restoreBytes ((new .c8a 1000000).snapshot.encode .c8a) = .ok after ∧
        after.cpu = .initial ∧ after.WellFormed := by
  have decoded := Snapshot.decode_encode Deflate.expand_compress (new .c8a 1000000).snapshot
    .c8a .c8a
  rw [if_pos rfl] at decoded
  have loaded : (new .c8a 4000000).restoreBytes ((new .c8a 1000000).snapshot.encode .c8a) =
      .ok (restore (new .c8a 1000000).snapshot (new .c8a 4000000)).2 :=
    restoreBytes_ok_iff.mpr ⟨_, decoded, rfl⟩
  obtain ⟨snapshot, accepted, -, -, -, -, cpu, wellFormed⟩ := loaded_wellFormed_iff loaded
  obtain rfl : (new .c8a 1000000).snapshot = snapshot :=
    Except.ok.inj (decoded.symm.trans accepted)
  refine ⟨_, loaded, cpu, wellFormed.mpr ?_⟩
  exact ⟨by decide, by decide, by decide, by decide, by decide, by decide +kernel⟩

/-- A snapshot with registers out of range, as a host may make one. -/
def forgedSnapshot : Snapshot :=
  { (new .c4 4000000).snapshot with
    cpu := { Cpu.initial with pc := 0x2345, sp := 0x0212, cc := 0xF8 }
    pending := 0xFFFC
    ports := ⟨.replicate 4 0xFF, .replicate 4 0xFF, .replicate 4 0xFF⟩ }

/-- Its saved state is accepted, and the registers are out of range in the loaded device too. -/
theorem loaded_out_of_range :
    ∃ after : Device, (new .c4 4000000).restoreBytes (forgedSnapshot.encode .c4) = .ok after ∧
      after.cpu.pc = 0x2345 ∧ after.cpu.sp = 0x0212 ∧ after.cpu.cc = 0xF8 ∧
      after.pending = 0xFFFC ∧ (after.ports.get 3).direction = 0xBF ∧ ¬ after.WellFormed := by
  have decoded := Snapshot.decode_encode Deflate.expand_compress forgedSnapshot .c4 .c4
  rw [if_pos rfl] at decoded
  have portD := restore_port forgedSnapshot (new .c4 4000000) 3
  refine ⟨(restore forgedSnapshot (new .c4 4000000)).2,
    restoreBytes_ok_iff.mpr ⟨_, decoded, rfl⟩, rfl, rfl, rfl, by decide, ?_, fun wellFormed => ?_⟩
  · exact (congrArg Port.direction portD).trans (by decide +kernel)
  · exact absurd wellFormed.pc (by decide)

end Device
end M68HC05
