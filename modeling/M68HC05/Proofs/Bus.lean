import M68HC05.Proofs.Action
import M68HC05.Device.Access

/-!
Bus accesses by their handlers. An access looks its address up, runs one handler and reports to the
watch list; so what every handler does, an access does (`Moves.read`, `Moves.write`). A handler is
met only where the address map of some part has wired it, which keeps writes to a direction
register away from port D (`Variant.direction_write`).
-/

namespace M68HC05

/-! ## Where an access goes -/

/-- A region holds the addresses between its ends. -/
theorem Region.bounds_of_contains (region : Region) {address first last : UInt16}
    (begins : region.first = first) (ends : region.last = last)
    (inside : region.contains address = true) : first ≤ address ∧ address ≤ last := by
  simpa only [Region.contains, begins, ends, Bool.and_eq_true, decide_eq_true_eq] using inside

namespace AddressMap

variable {map : AddressMap} {address offset : UInt16} {handler : Handler}

/-- A read goes to a region that holds the address and is wired for reads. -/
theorem exists_of_reader? (goes : map.reader? address = some (handler, offset)) :
    ∃ region ∈ map, region.contains address = true ∧ region.read = some handler ∧
      offset = address - region.first := by
  obtain ⟨region, member, found⟩ := List.exists_of_findSome?_eq_some goes
  unfold Region.reader? at found
  split at found
  · rename_i inside
    obtain ⟨wired, reads, same⟩ := Option.map_eq_some_iff.mp found
    cases same
    exact ⟨region, member, inside, reads, rfl⟩
  · cases found

/-- A write goes to a region that holds the address and is wired for writes. -/
theorem exists_of_writer? (goes : map.writer? address = some (handler, offset)) :
    ∃ region ∈ map, region.contains address = true ∧ region.write = some handler ∧
      offset = address - region.first := by
  obtain ⟨region, member, found⟩ := List.exists_of_findSome?_eq_some goes
  unfold Region.writer? at found
  split at found
  · rename_i inside
    obtain ⟨wired, writes, same⟩ := Option.map_eq_some_iff.mp found
    cases same
    exact ⟨region, member, inside, writes, rfl⟩
  · cases found

/-- A handler that is wired for reads in one region only is reached by reads there. -/
theorem bounds_of_reader? {first last : UInt16}
    (goes : map.reader? address = some (handler, offset))
    (only : ∀ region ∈ map, region.read = some handler →
      region.first = first ∧ region.last = last) : first ≤ address ∧ address ≤ last := by
  obtain ⟨region, member, inside, reads, -⟩ := exists_of_reader? goes
  obtain ⟨begins, ends⟩ := only region member reads
  exact region.bounds_of_contains begins ends inside

/-- A handler that is wired for writes in one region only is reached by writes there. -/
theorem bounds_of_writer? {first last : UInt16}
    (goes : map.writer? address = some (handler, offset))
    (only : ∀ region ∈ map, region.write = some handler →
      region.first = first ∧ region.last = last) : first ≤ address ∧ address ≤ last := by
  obtain ⟨region, member, inside, writes, -⟩ := exists_of_writer? goes
  obtain ⟨begins, ends⟩ := only region member writes
  exact region.bounds_of_contains begins ends inside

/-- A handler that is wired for reads at one address only is reached by reads of that address. -/
theorem eq_of_reader? {place : UInt16} (goes : map.reader? address = some (handler, offset))
    (only : ∀ region ∈ map, region.read = some handler →
      region.first = place ∧ region.last = place) : address = place := by
  obtain ⟨above, below⟩ := bounds_of_reader? goes only
  exact UInt16.le_antisymm below above

/-- A handler that is wired for writes at one address only is reached by writes to that address. -/
theorem eq_of_writer? {place : UInt16} (goes : map.writer? address = some (handler, offset))
    (only : ∀ region ∈ map, region.write = some handler →
      region.first = place ∧ region.last = place) : address = place := by
  obtain ⟨above, below⟩ := bounds_of_writer? goes only
  exact UInt16.le_antisymm below above

end AddressMap

/-- The direction registers that are wired for writes are those of ports A to C. -/
theorem Variant.direction_write {variant : Variant} {address offset : UInt16}
    (goes : variant.addressMap.writer? address = some (.portDirection, offset)) :
    Ports.wrapIndex offset.toNat ≠ 3 := by
  obtain ⟨region, member, inside, writes, rfl⟩ := AddressMap.exists_of_writer? goes
  have place : ∀ region ∈ variant.addressMap, region.write = some .portDirection →
      region.first = 4 ∧ region.last = 6 := by
    cases variant with
    | c4 => decide
    | c8 => decide
    | c8a => decide
  obtain ⟨first, last⟩ := place region member writes
  simp only [Region.contains, first, last, Bool.and_eq_true, decide_eq_true_eq,
    UInt16.le_iff_toNat_le] at inside
  have small : (address - region.first).toNat < 3 := by
    rw [first, UInt16.toNat_sub_of_le _ _ (UInt16.le_iff_toNat_le.mpr inside.1)]
    have := inside.2
    have four : (4 : UInt16).toNat = 4 := rfl
    have six : (6 : UInt16).toNat = 6 := rfl
    omega
  intro atD
  have value : (address - region.first).toNat % 4 = 3 := congrArg Fin.val atD
  omega

namespace Device

open M68HC05.Action

/-! ## Accesses and their handlers -/

variable {T : Device → Device → Prop} {address : UInt16} {access : Access}

/-- What every handler does, a read does. -/
theorem Moves.read (flow : Flow T)
    (handled : ∀ (variant : Variant) (handler : Handler) (offset : UInt16),
      variant.addressMap.reader? (busAddress address) = some (handler, offset) →
        Moves T (readHandler handler offset (busAddress address) access))
    (observed : access = .program → ∀ byte,
      Moves T (observe (busAddress address) .read byte none)) :
    Moves T (read address access) := by
  have rest : ∀ byte : UInt8, Moves T (do
      if access = .program then
        observe (busAddress address) .read byte none
      return byte) := by
    intro byte
    refine .ite (fun program => ?_) fun _ => flow.pure byte
    exact flow.bind (observed program byte) fun _ => flow.pure byte
  unfold Device.read
  refine Moves.get fun device => ?_
  rcases goes : device.variant.addressMap.reader? (busAddress address) with _ | ⟨handler, offset⟩
  · exact rest 0xFF
  · exact flow.bind (handled device.variant handler offset goes) rest

/-- A program read is made by the handler of its address, before it is reported. -/
theorem read_handled {device : Device} {handler : Handler} {offset : UInt16}
    (goes : device.variant.addressMap.reader? (busAddress address) = some (handler, offset)) :
    ∃ watches bench, (Device.read address .program device).2 =
      { (readHandler handler offset (busAddress address) .program device).2 with
        watches, bench } := by
  unfold Device.read
  rw [bind_apply, get_apply]
  dsimp only
  rw [goes]
  exact ⟨_, _, rfl⟩

/-- A program read of an address without a handler is only reported. -/
theorem read_unhandled {device : Device}
    (nowhere : device.variant.addressMap.reader? (busAddress address) = none) :
    ∃ watches bench, (Device.read address .program device).2 = { device with watches, bench } := by
  unfold Device.read
  rw [bind_apply, get_apply]
  dsimp only
  rw [nowhere]
  exact ⟨_, _, rfl⟩

/-- A program write is made by the handler of its address, after it is reported. -/
theorem write_handled {device : Device} {handler : Handler} {offset : UInt16}
    (goes : device.variant.addressMap.writer? (busAddress address) = some (handler, offset))
    (byte : UInt8) : ∃ watches bench, (Device.write address byte .program device).2 =
      (writeHandler handler offset (busAddress address) byte .program
        { device with watches, bench }).2 := by
  let observed := (observe (busAddress address) .write byte
    (some (device.memory.read (busAddress address))) device).2
  have there : observed.variant.addressMap.writer? (busAddress address) =
    some (handler, offset) := goes
  refine ⟨observed.watches, observed.bench, ?_⟩
  unfold Device.write passWrite
  simp only [bind_apply, get_apply, if_true]
  rw [there]
  rfl

/-- A program write to an address without a handler is only reported. -/
theorem write_unhandled {device : Device}
    (nowhere : device.variant.addressMap.writer? (busAddress address) = none) (byte : UInt8) :
    ∃ watches bench, (Device.write address byte .program device).2 =
      { device with watches, bench } := by
  let observed := (observe (busAddress address) .write byte
    (some (device.memory.read (busAddress address))) device).2
  have there : observed.variant.addressMap.writer? (busAddress address) = none := nowhere
  refine ⟨observed.watches, observed.bench, ?_⟩
  unfold Device.write passWrite
  simp only [bind_apply, get_apply, if_true]
  rw [there]
  rfl

/-- What every handler that a write can reach does, a write does. -/
theorem Moves.write (flow : Flow T) {byte : UInt8}
    (handled : ∀ (variant : Variant) (handler : Handler) (offset : UInt16),
      variant.addressMap.writer? (busAddress address) = some (handler, offset) →
        Moves T (writeHandler handler offset (busAddress address) byte access))
    (observed : access = .program → ∀ previous,
      Moves T (observe (busAddress address) .write byte previous)) :
    Moves T (write address byte access) := by
  have rest : Moves T (passWrite (busAddress address) byte access) := by
    unfold Device.passWrite
    refine Moves.get fun device => ?_
    rcases goes : device.variant.addressMap.writer? (busAddress address) with
      _ | ⟨handler, offset⟩
    · exact flow.refl
    · exact handled device.variant handler offset goes
  unfold Device.write
  refine .ite (fun program => Moves.get fun device => ?_) fun _ => rest
  exact flow.bind (observed program _) fun _ => rest

/-- A read of a port leaves what sampling and taking over its pins leave. -/
theorem Moves.readPort (flow : Flow T) {index : PortIndex}
    (sampled : ∀ device bench, T device { device with bench := bench })
    (accepted : ∀ pins, Moves T (onPort index (·.accept index pins))) :
    Moves T (readPort index access) := by
  have rest : Moves T (do return ((← get).ports.get index).value) :=
    Moves.get fun device => flow.pure (device.ports.get index).value
  unfold Device.readPort
  refine .ite (fun _ => Moves.get fun device => ?_) fun _ => rest
  refine flow.bind (fun device => ?_) fun pins? => ?_
  · exact sampled device _
  · cases pins? with
    | none => exact rest
    | some pins => exact flow.bind (accepted pins) fun _ => rest

/-! ## What no access touches -/

/-- The parts of a device that are out of reach of the bus. -/
structure Frame where
  variant : Variant
  clock : UInt32
  cpu : Cpu
  lineAsserted : Bool
  started : Bool
  budget : Int64
  resetDue : Bool
  breakpoints : List UInt16
  breakpointHit : Bool

/-- The frame of a device. -/
def frame (device : Device) : Frame where
  variant := device.variant
  clock := device.clock
  cpu := device.cpu
  lineAsserted := device.lineAsserted
  started := device.started
  budget := device.budget
  resetDue := device.resetDue
  breakpoints := device.breakpoints
  breakpointHit := device.breakpointHit

theorem frame_readHandler (handler : Handler) (offset address : UInt16) (access : Access) :
    Moves (Same frame) (readHandler handler offset address access) := by
  unfold readHandler
  cases handler with
  | portData => exact Moves.readPort (Same.flow frame) (fun _ _ => rfl) fun _ _ => rfl
  | _ => exact fun _ => rfl

theorem frame_writeHandler (handler : Handler) (offset address : UInt16) (byte : UInt8)
    (access : Access) : Moves (Same frame) (writeHandler handler offset address byte access) := by
  unfold writeHandler
  cases handler with
  | watchdogKey =>
    cases access with
    | program => exact fun _ => rfl
    | debugger => exact fun _ => rfl
  | watchdogClear =>
    cases access with
    | program => exact fun _ => rfl
    | debugger => exact fun _ => rfl
  | rom =>
    cases access with
    | program => exact fun _ => rfl
    | debugger => exact fun _ => rfl
  | _ => exact fun _ => rfl

/-- A read reaches the watchdogs at their control register only. -/
theorem watchdog_readHandler {handler : Handler} (other : handler ≠ .watchdogControl)
    (offset address : UInt16) (access : Access) :
    Moves (Same watchdog) (readHandler handler offset address access) := by
  unfold readHandler
  cases handler with
  | watchdogControl => exact absurd rfl other
  | portData => exact Moves.readPort (Same.flow watchdog) (fun _ _ => rfl) fun _ _ => rfl
  | _ => exact fun _ => rfl

/-- A read leaves the frame as it is. -/
theorem frame_read (address : UInt16) (access : Access) :
    Moves (Same frame) (Device.read address access) :=
  Moves.read (Same.flow frame) (fun _ _ _ _ => frame_readHandler _ _ _ access) fun _ _ _ => rfl

/-- A write leaves the frame as it is. -/
theorem frame_write (address : UInt16) (byte : UInt8) (access : Access) :
    Moves (Same frame) (Device.write address byte access) :=
  Moves.write (Same.flow frame) (fun _ _ _ _ => frame_writeHandler _ _ _ byte access)
    fun _ _ _ => rfl

/-- A read leaves the processor registers to the instruction that makes it. -/
theorem read_cpu (address : UInt16) (access : Access) (device : Device) :
    (Device.read address access device).2.cpu = device.cpu :=
  congrArg Frame.cpu (frame_read address access device)

/-- A write leaves the processor registers to the instruction that makes it. -/
theorem write_cpu (address : UInt16) (byte : UInt8) (access : Access) (device : Device) :
    (Device.write address byte access device).2.cpu = device.cpu :=
  congrArg Frame.cpu (frame_write address byte access device)

/-- What holds of the frame goes on to hold. -/
theorem keeps_of_frame {α : Type} {action : Action α} (same : Moves (Same frame) action)
    (P : Frame → Prop) : Moves (Kept fun device => P device.frame) action := by
  intro device holds
  have unchanged : (action device).2.frame = device.frame := same device
  change P (action device).2.frame
  rw [unchanged]
  exact holds

end Device
end M68HC05
