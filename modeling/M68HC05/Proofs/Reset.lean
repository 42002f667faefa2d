import M68HC05.Proofs.Service

/-!
A reset in one equation (`Device.reset_apply`). The vector of a reset lies in ROM on every part, so
reading it touches no register, and what a reset leaves behind can be read off the device before.
-/

namespace M68HC05

open M68HC05.Action

namespace Device

/-- The vector of a reset lies in ROM on every part. -/
theorem resetVector_rom (variant : Variant) :
    (∃ offset, variant.addressMap.reader? (busAddress resetVector) = some (.rom, offset)) ∧
      ∃ offset, variant.addressMap.reader? (busAddress (resetVector + 1)) = some (.rom, offset) := by
  cases variant with
  | c4 => exact ⟨⟨_, rfl⟩, ⟨_, rfl⟩⟩
  | c8 => exact ⟨⟨_, rfl⟩, ⟨_, rfl⟩⟩
  | c8a => exact ⟨⟨_, rfl⟩, ⟨_, rfl⟩⟩

/-- The address at which a device goes on after a reset. -/
def resetTarget (device : Device) : UInt16 :=
  busAddress (joinBytes (device.memory.read 0x1FFE) (device.memory.read 0x1FFF))

/-- The watchdogs after a reset, which takes over the mask option where there is one. -/
def resetWatchdog (device : Device) : Watchdog :=
  if device.variant.hasFixedWatchdog then
    { device.watchdog.reset with
      fixedEnabled := decide (device.memory.read maskOptionAddress % 2 = 1) }
  else device.watchdog.reset

/-- The device in a reset, before it goes on through the vector. -/
def cleared (device : Device) : Device :=
  { device with
    cpu := device.cpu.reset
    pending := mirrored 0 device.timer.reset.requests
    resetDue := false
    ports := device.ports.map Port.reset
    timer := device.timer.reset
    watchdog := device.resetWatchdog
    bench := (device.bench.add (.remark (.deviceReset device.variant))).record
      (if device.variant.hasFixedWatchdog then
        [.remark (.fixedWatchdogSwitched
          (decide (device.memory.read maskOptionAddress % 2 = 1)))]
      else []) }

theorem reset_eq (device : Device) : reset device = jumpThrough resetVector device.cleared := by
  unfold reset
  generalize jumpThrough resetVector = jump
  unfold latchMaskOption cleared resetWatchdog
  simp only [bind_apply, get_apply, Action.ite_apply]
  split
  · rename_i fitted
    have variant : device.variant.hasFixedWatchdog = true := fitted
    rw [if_pos variant, if_pos variant]
    rfl
  · rename_i bare
    have variant : ¬ device.variant.hasFixedWatchdog = true := bare
    rw [if_neg variant, if_neg variant]
    rfl

theorem reset_apply (device : Device) : ∃ watches bench, (reset device).2 = { device with
    cpu := { device.cpu.reset with pc := device.resetTarget }
    pending := mirrored 0 device.timer.reset.requests
    resetDue := false
    ports := device.ports.map Port.reset
    timer := device.timer.reset
    watchdog := device.resetWatchdog
    watches
    bench } := by
  obtain ⟨high, low⟩ := resetVector_rom device.cleared.variant
  obtain ⟨watches, traced, jumped⟩ := jumpThrough_rom device.cleared high low
  rw [reset_eq]
  exact ⟨watches, traced, jumped⟩

end Device
end M68HC05
