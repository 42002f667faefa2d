import M68HC05.Proofs.Clocks
import M68HC05.Proofs.Patch

/-!
Patches of the memory. A debugger may overwrite RAM and ROM alike, and reads back what it has
written, through every alias of the address. Reads and writes of an address are looked up apart from
each other, so what has to be shown is that they meet in the same region
(`Variant.writer_memory`). There is one byte where they do not: the clear register of the
non-programmable watchdog lies over a byte of ROM and takes the writes to it, and from a debugger it
takes them without effect. So a patch of this byte is lost (`Device.patch_lost_under_register`), and
all others are there (`Device.patch_memory`).
-/

namespace M68HC05

/-! ## Where a write to memory goes -/

/-- A write goes where a read goes if the regions that the read may meet are wired alike in both
directions: those that let it pass, and those of its handler. -/
theorem AddressMap.writer?_of_reader? {map : AddressMap} {address offset : UInt16}
    {handler : Handler} (goes : map.reader? address = some (handler, offset))
    (alike : ∀ region ∈ map, region.contains address = true →
      region.read = none ∨ region.read = some handler → region.write = region.read) :
    map.writer? address = some (handler, offset) := by
  induction map with
  | nil => cases goes
  | cons region rest ih =>
    have later (goes : AddressMap.reader? rest address = some (handler, offset)) :
        AddressMap.writer? rest address = some (handler, offset) :=
      ih goes fun other member => alike other (List.mem_cons_of_mem region member)
    unfold AddressMap.reader? at goes
    unfold AddressMap.writer?
    rw [List.findSome?_cons] at goes ⊢
    by_cases inside : region.contains address = true
    · have wiring := alike region List.mem_cons_self inside
      rw [Region.reader?, if_pos inside] at goes
      rw [Region.writer?, if_pos inside]
      cases reads : region.read with
      | none =>
        rw [reads] at goes
        rw [wiring (.inl reads), reads]
        exact later goes
      | some wired =>
        rw [reads] at goes
        cases goes
        rw [wiring (.inr reads), reads]
        rfl
    · rw [Region.reader?, if_neg inside] at goes
      rw [Region.writer?, if_neg inside]
      exact later goes

namespace Variant

/-- A byte of memory lies under the clear register of the non-programmable watchdog. -/
def Overlaid (variant : Variant) (address : UInt16) : Prop :=
  variant.hasFixedWatchdog = true ∧ address = clearAddress

instance (variant : Variant) (address : UInt16) : Decidable (variant.Overlaid address) :=
  inferInstanceAs (Decidable (_ ∧ _))

/-- Memory is wired alike in both directions, and only the registers of the watchdogs are wired for
writes alone. -/
theorem memory_regions (variant : Variant) : ∀ region ∈ variant.addressMap,
    (region.read = some .rom ∨ region.read = some .ram →
      region.write = region.read ∧ 0x0020 ≤ region.first) ∧
    (region.read = none → region.first = region.last ∧
      (region.first = keyAddress ∨
        variant.hasFixedWatchdog = true ∧ region.first = clearAddress)) := by
  cases variant with
  | c4 => decide
  | c8 => decide
  | c8a => decide

/-- A write to memory goes where a read of it goes, except under the clear register. -/
theorem writer_memory {variant : Variant} {address offset : UInt16} {handler : Handler}
    (goes : variant.addressMap.reader? address = some (handler, offset))
    (memory : handler = .rom ∨ handler = .ram) (bare : ¬ variant.Overlaid address) :
    variant.addressMap.writer? address = some (handler, offset) := by
  have isMemory {region : Region} (reads : region.read = some handler) :
      region.read = some .rom ∨ region.read = some .ram :=
    memory.imp (fun rom => reads.trans (congrArg some rom)) fun ram =>
      reads.trans (congrArg some ram)
  -- memory begins above the key register, which is the other region that reads pass
  obtain ⟨found, member, within, reads, -⟩ := AddressMap.exists_of_reader? goes
  have reach : 0x0020 ≤ address := by
    have low := ((variant.memory_regions found member).1 (isMemory reads)).2
    exact UInt16.le_trans low (found.bounds_of_contains rfl rfl within).1
  refine AddressMap.writer?_of_reader? goes fun region member inside wired => ?_
  obtain ⟨both, alone⟩ := variant.memory_regions region member
  rcases wired with none | reads
  · exfalso
    obtain ⟨single, register⟩ := alone none
    obtain ⟨above, below⟩ := region.bounds_of_contains rfl single.symm inside
    have place : address = region.first := UInt16.le_antisymm below above
    rcases register with key | ⟨fitted, clear⟩
    · rw [place, key] at reach
      exact absurd reach (by decide)
    · exact bare ⟨fitted, place.trans clear⟩
  · exact (both (isMemory reads)).1

end Variant

/-! ## Patches -/

namespace Device

variable {device : Device} {address offset : UInt16} {handler : Handler} {byte : UInt8}

/-- A debugger that writes to memory stores the byte and does nothing else. -/
theorem write_debugger_memory
    (goes : device.variant.addressMap.reader? (busAddress address) = some (handler, offset))
    (memory : handler = .rom ∨ handler = .ram)
    (bare : ¬ device.variant.Overlaid (busAddress address)) :
    (Device.write address byte .debugger device).2 =
      { device with memory := device.memory.write (busAddress address) byte } := by
  rw [write_debugger_apply, Variant.writer_memory goes memory bare]
  rcases memory with rfl | rfl
  · rfl
  · rfl

/-- Under the clear register a debugger writes without effect. -/
theorem write_debugger_overlaid (overlaid : device.variant.Overlaid (busAddress address)) :
    (Device.write address byte .debugger device).2 = device := by
  rw [write_debugger_apply, overlaid.2, Variant.writer_clear overlaid.1]
  rfl

/-- A read of memory answers the byte that is stored there. -/
theorem read_stored
    (goes : device.variant.addressMap.reader? (busAddress address) = some (handler, offset))
    (memory : handler = .rom ∨ handler = .ram) (access : Access) :
    (Device.read address access device).1 = device.memory.read (busAddress address) := by
  rw [read_value, goes]
  rcases memory with rfl | rfl
  · rfl
  · rfl

/-- A debugger can patch the memory of any device, in any state, at every address that reads as ROM
or RAM, with one exception.

* Both kinds of access then read the new byte at the address and at all its aliases, unless the byte
  lies under the clear register of the non-programmable watchdog, in which case the patch is lost
  and the whole device is as before.
* No other byte of the memory changes, and no other part of the device. -/
theorem patch_memory (device : Device) (address : UInt16) (byte : UInt8)
    {handler : Handler} {offset : UInt16}
    (goes : device.variant.addressMap.reader? (busAddress address) = some (handler, offset))
    (memory : handler = .rom ∨ handler = .ram) :
    let after := (Device.write address byte .debugger device).2
    (¬ device.variant.Overlaid (busAddress address) →
        ∀ (mirror : UInt16) (access : Access), busAddress mirror = busAddress address →
          (Device.read mirror access after).1 = byte) ∧
      (device.variant.Overlaid (busAddress address) → after = device) ∧
      (∀ other, other ≠ busAddress address →
        after.memory.read other = device.memory.read other) ∧
      after = { device with memory := after.memory } := by
  intro after
  by_cases overlaid : device.variant.Overlaid (busAddress address)
  · have same : after = device := write_debugger_overlaid overlaid
    refine ⟨fun bare => absurd overlaid bare, fun _ => same, fun other _ => ?_, ?_⟩
    · rw [same]
    · rw [same]
  · have stored : after = { device with memory := device.memory.write (busAddress address) byte } :=
      write_debugger_memory goes memory overlaid
    refine ⟨fun _ mirror access same => ?_, fun hidden => absurd hidden overlaid,
      fun other ne => ?_, ?_⟩
    · have still :
          after.variant.addressMap.reader? (busAddress mirror) = some (handler, offset) := by
        rw [stored, same]
        exact goes
      rw [read_stored still memory, stored, same]
      exact device.memory.read_write_self _ byte (busAddress_lt address)
    · rw [stored]
      exact device.memory.read_write_of_ne byte ne.symm
    · rw [stored]

/-- A ROM byte patched through an alias, and read back through another. -/
theorem patch_memory_through_alias :
    let device := new .c8a 4000000
    device.variant.addressMap.reader? (busAddress 0xE100) = some (.rom, 0) ∧
      (Device.read 0x2100 .program (Device.write 0xE100 0x9D .debugger device).2).1 = 0x9D := by
  intro device
  have goes : device.variant.addressMap.reader? (busAddress 0xE100) = some (.rom, 0) := by decide
  obtain ⟨reads, -, -, -⟩ := patch_memory device 0xE100 0x9D goes (.inl rfl)
  exact ⟨goes, reads (by decide) 0x2100 .program (by decide)⟩

/-- The byte under the clear register reads as ROM, and a debugger patches it in vain. -/
theorem patch_lost_under_register :
    let device := new .c8a 4000000
    let after := (Device.write 0x1FF0 0x42 .debugger device).2
    device.variant.addressMap.reader? (busAddress 0x1FF0) = some (.rom, 0) ∧
      (Device.read 0x1FF0 .program after).1 = 0x00 ∧
      (Device.read 0x1FF0 .debugger after).1 = 0x00 := by
  intro device after
  exact ⟨by decide, by decide +kernel, by decide +kernel⟩

end Device
end M68HC05
