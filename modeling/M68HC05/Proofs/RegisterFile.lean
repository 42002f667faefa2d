import M68HC05.Proofs.CpuRange
import M68HC05.Proofs.PeripheralRange

/-!
The registers of a device as fields. A register that is set holds what its bits keep of the value
(`Device.storedValue_setRegister`), and every register that is stored elsewhere is left as it was
(`Device.storedValue_setRegister_of_ne`). Each register name has a field of its own in the device.
Only the registers of a name that takes an index share a kind of field, and an index past the last
one stands for an earlier one (`Register.wrapped`).
-/

namespace M68HC05

open M68HC05.Action

/-! ## Registers by index -/

namespace Register

/-- The register that an index of any size names. -/
def wrapped : Register → Register
  | latch n => latch (n % 4)
  | input n => input (n % 4)
  | counterBuffer n => counterBuffer (n % 2)
  | counterLatched n => counterLatched (n % 2)
  | other => other

end Register

namespace Device

variable {device : Device} {register other : Register}

/-- The registers of a device go by no index past the last one. -/
theorem wrapped_of_mem (member : register ∈ device.registers) : register.wrapped = register := by
  have all : ∀ known ∈ Register.shared ++ Register.ofProgrammableWatchdog ++
      Register.ofFixedWatchdog, known.wrapped = known := by decide
  apply all
  unfold registers at member
  simp only [List.mem_append] at member ⊢
  rcases member with (shared | programmable) | fixed
  · exact .inl (.inl shared)
  · split at programmable
    · exact .inl (.inr programmable)
    · cases programmable
  · split at fixed
    · exact .inr fixed
    · cases fixed

theorem wrapIndex_mod (n : Nat) : Ports.wrapIndex (n % 4) = Ports.wrapIndex n :=
  Fin.ext (Nat.mod_mod n 4)

theorem channelOf_mod (n : Nat) : storedValue.channelOf (n % 2) = storedValue.channelOf n := by
  unfold storedValue.channelOf
  rw [Nat.mod_mod]

/-- An index is as good as the one that it stands for. -/
theorem storedValue_wrapped (device : Device) (register : Register) :
    device.storedValue register.wrapped = device.storedValue register := by
  cases register with
  | latch n => exact congrArg (fun i => (device.ports.get i).latch.toUInt32) (wrapIndex_mod n)
  | input n => exact congrArg (fun i => (device.ports.get i).input.toUInt32) (wrapIndex_mod n)
  | counterBuffer n =>
    exact congrArg (fun c => (device.timer.lowByte c).buffer.toUInt32) (channelOf_mod n)
  | counterLatched n =>
    exact congrArg (fun c => (device.timer.lowByte c).latched.toUInt32) (channelOf_mod n)
  | _ => rfl

/-! ## The register that is set -/

/-- What a register keeps of a value. The stack pointer is moved into the stack, and a direction
register that exists keeps what is bonded. -/
def kept (device : Device) (register : Register) (value : UInt32) : UInt32 :=
  match register with
  | .sp => value &&& 0x3F ||| 0xC0
  | .direction n =>
    if n < Register.directionCount then
      value &&& register.mask &&& (device.ports.get (Ports.wrapIndex n)).bonded.toUInt32
    else 0
  | _ => value &&& register.mask

theorem changePort_get (n : Nat) (change : Port → Port) (device : Device) (index : PortIndex) :
    (changePort n change device).2.ports.get index =
      if (Ports.wrapIndex n).val = index.val then change (device.ports.get (Ports.wrapIndex n))
      else device.ports.get index :=
  Ports.get_set (Ports.wrapIndex n) index _

theorem changePort_get_self (n : Nat) (change : Port → Port) (device : Device) :
    (changePort n change device).2.ports.get (Ports.wrapIndex n) =
      change (device.ports.get (Ports.wrapIndex n)) := by
  rw [changePort_get, if_pos rfl]

/-- The stack pointer as its register shows it. -/
theorem toUInt32_stackAddress (value : UInt32) :
    (Cpu.stackAddress (value &&& 0xFF).toUInt16).toUInt32 = value &&& 0x3F ||| 0xC0 := by
  apply UInt32.toNat_inj.mp
  have byte : (value &&& 0xFF).toUInt16.toNat = value.toNat % 256 := by
    rw [UInt32.toNat_toUInt16, UInt32.toNat_and]
    have low := Nat.and_two_pow_sub_one_eq_mod value.toNat 8
    change (value.toNat &&& 2 ^ 8 - 1) % 2 ^ 16 = value.toNat % 2 ^ 8
    omega
  have floor := Nat.two_pow_add_eq_or_of_lt (Nat.mod_lt value.toNat (by decide : 0 < 2 ^ 6)) 3
  have low := Nat.and_two_pow_sub_one_eq_mod value.toNat 6
  rw [UInt16.toNat_toUInt32, Cpu.toNat_stackAddress, byte, UInt32.toNat_or, UInt32.toNat_and,
    Nat.or_comm]
  change 0x00C0 + value.toNat % 256 % 64 = 2 ^ 6 * 3 ||| (value.toNat &&& 2 ^ 6 - 1)
  rw [low, ← floor]
  omega

theorem setRegister_direction (n : Nat) (value : UInt32) (device : Device) :
    setRegister (.direction n) value device =
      if n < Register.directionCount then
        changePort n (·.setDirection (value &&& 0xFF).toUInt8) device
      else remark (.missingDirection n) device :=
  Action.ite_apply ..

/-- A register holds what it keeps of the value that it is set to. -/
theorem storedValue_setRegister (device : Device) (register : Register) (value : UInt32) :
    (setRegister register value device).2.storedValue register = device.kept register value := by
  cases register with
  | pc => exact toUInt16_and_toUInt32 value (by decide)
  | sp => exact toUInt32_stackAddress value
  | a => exact toUInt8_and_toUInt32 value (by decide)
  | x => exact toUInt8_and_toUInt32 value (by decide)
  | cc => exact toUInt8_and_toUInt32 value (by decide)
  | latch n =>
    have set := changePort_get_self n (·.setLatch (value &&& 0xFF).toUInt8) device
    exact (congrArg (·.latch.toUInt32) set).trans (toUInt8_and_toUInt32 value (by decide))
  | input n =>
    have set := changePort_get_self n (·.setInput (value &&& 0xFF).toUInt8) device
    exact (congrArg (·.input.toUInt32) set).trans (toUInt8_and_toUInt32 value (by decide))
  | direction n =>
    have set := changePort_get_self n (·.setDirection (value &&& 0xFF).toUInt8) device
    rw [setRegister_direction]
    dsimp only [storedValue, kept, Register.mask]
    split
    · rw [set]
      dsimp only [Port.setDirection]
      rw [UInt8.toUInt32_and, toUInt8_and_toUInt32 value (by decide)]
    · rfl
  | timerControl => exact toUInt8_and_and_toUInt32 value Timer.controlMask
  | timerStatus => exact toUInt8_and_and_toUInt32 value Timer.statusMask
  | statusSeen => exact toUInt8_and_and_toUInt32 value Timer.statusMask
  | captureInhibit => exact toUInt32_lowest value
  | compareInhibit => exact toUInt32_lowest value
  | counterBuffer n =>
    let channel := storedValue.channelOf n
    let byte := (value &&& 0xFF).toUInt8
    have set := device.timer.lowByte_setLowByte channel channel
      { device.timer.lowByte channel with buffer := byte }
    rw [if_pos rfl] at set
    exact (congrArg (·.buffer.toUInt32) set).trans (toUInt8_and_toUInt32 value (by decide))
  | counterLatched n =>
    let channel := storedValue.channelOf n
    have set := device.timer.lowByte_setLowByte channel channel
      { device.timer.lowByte channel with latched := value &&& 1 ≠ 0 }
    rw [if_pos rfl] at set
    exact (congrArg (·.latched.toUInt32) set).trans (toUInt32_lowest value)
  | captureLevel => exact toUInt32_lowest value
  | capture => exact toUInt16_and_toUInt32 value (by decide)
  | compare => exact toUInt16_and_toUInt32 value (by decide)
  | prescaler =>
    change ((value &&& 0x0F).toUInt8 % 16).toUInt32 = value &&& 0x0F
    rw [UInt8.toUInt32_mod, toUInt8_and_toUInt32 value (by decide)]
    exact and_mod32 value (by decide)
  | counter => exact toUInt16_and_toUInt32 value (by decide)
  | watchdogKey => exact toUInt8_and_toUInt32 value (by decide)
  | watchdogControl => exact toUInt8_and_and_toUInt32 value Watchdog.controlMask
  | programmableCount => exact and_mod32 value (by decide)
  | fixedEnable => exact toUInt32_lowest value
  | fixedCount => exact and_mod32 value (by decide)

/-! ## The other registers -/

/-- What a change of a port leaves alone in it, the change leaves alone in all ports. -/
theorem changePort_field {α : Type} (field : Port → α) {change : Port → Port} {n : Nat}
    {index : PortIndex}
    (same : (Ports.wrapIndex n).val = index.val → ∀ port, field (change port) = field port) :
    field ((changePort n change device).2.ports.get index) = field (device.ports.get index) := by
  rw [changePort_get]
  split
  · rename_i there
    rw [← Fin.ext there, same there]
  · rfl

/-- A change of a port is seen only in a register of this port that shows what it changes. -/
theorem storedValue_changePort {change : Port → Port} {n : Nat}
    (latch : ∀ m, other = .latch m → (Ports.wrapIndex n).val = (Ports.wrapIndex m).val →
      ∀ port, (change port).latch = port.latch)
    (input : ∀ m, other = .input m → (Ports.wrapIndex n).val = (Ports.wrapIndex m).val →
      ∀ port, (change port).input = port.input)
    (direction : ∀ m, other = .direction m → m < Register.directionCount →
      (Ports.wrapIndex n).val = (Ports.wrapIndex m).val →
      ∀ port, (change port).direction = port.direction) :
    (changePort n change device).2.storedValue other = device.storedValue other := by
  cases other with
  | latch m => exact congrArg UInt8.toUInt32 (changePort_field Port.latch (latch m rfl))
  | input m => exact congrArg UInt8.toUInt32 (changePort_field Port.input (input m rfl))
  | direction m =>
    dsimp only [storedValue]
    split
    · rename_i known
      exact congrArg UInt8.toUInt32 (changePort_field Port.direction (direction m rfl known))
    · rfl
  | _ => rfl

/-- What a low byte has in common with the one that it replaces, it leaves alone in both. -/
theorem setLowByte_field {α : Type} (field : LowByte → α) {timer : Timer}
    {channel other : Channel} {low : LowByte}
    (same : channel = other → field low = field (timer.lowByte channel)) :
    field ((timer.setLowByte channel low).lowByte other) = field (timer.lowByte other) := by
  rw [Timer.lowByte_setLowByte]
  split
  · rename_i there
    rw [same there, there]
  · rfl

/-- A change of a low byte is seen only in the registers of its channel. -/
theorem storedValue_setLowByte {channel : Channel} {low : LowByte}
    (buffer : ∀ m, other = .counterBuffer m → channel = storedValue.channelOf m →
      low.buffer = (device.timer.lowByte channel).buffer)
    (latched : ∀ m, other = .counterLatched m → channel = storedValue.channelOf m →
      low.latched = (device.timer.lowByte channel).latched) :
    storedValue { device with timer := device.timer.setLowByte channel low } other =
      device.storedValue other := by
  cases other with
  | counterBuffer m =>
    exact congrArg UInt8.toUInt32 (setLowByte_field LowByte.buffer (buffer m rfl))
  | counterLatched m =>
    exact congrArg Bool.toUInt32 (setLowByte_field LowByte.latched (latched m rfl))
  | _ =>
    cases channel with
    | _ => rfl

theorem mod_eq_of_channelOf {n m : Nat}
    (same : storedValue.channelOf n = storedValue.channelOf m) : n % 2 = m % 2 := by
  unfold storedValue.channelOf at same
  split at same
  · split at same
    · omega
    · cases same
  · split at same
    · cases same
    · omega

/-- Setting a register leaves the registers that are stored elsewhere as they are. -/
theorem storedValue_setRegister_of_ne (apart : other.wrapped ≠ register.wrapped) (value : UInt32)
    (device : Device) :
    (setRegister register value device).2.storedValue other = device.storedValue other := by
  cases register with
  | latch n =>
    refine storedValue_changePort ?_ (fun _ _ _ _ => rfl) fun _ _ _ _ _ => rfl
    rintro m rfl there
    exact absurd (congrArg Register.latch there.symm) apart
  | input n =>
    refine storedValue_changePort (fun _ _ _ _ => rfl) ?_ fun _ _ _ _ _ => rfl
    rintro m rfl there
    exact absurd (congrArg Register.input there.symm) apart
  | direction n =>
    rw [setRegister_direction]
    split
    · rename_i known
      refine storedValue_changePort (fun _ _ _ _ => rfl) (fun _ _ _ _ => rfl) ?_
      rintro m rfl otherKnown there
      have same : n % 4 = m % 4 := there
      unfold Register.directionCount at known otherKnown
      exact absurd (congrArg Register.direction (by omega : m = n)) apart
    · rfl
  | counterBuffer n =>
    refine storedValue_setLowByte ?_ fun _ _ _ => rfl
    rintro m rfl there
    exact absurd (congrArg Register.counterBuffer (mod_eq_of_channelOf there).symm) apart
  | counterLatched n =>
    refine storedValue_setLowByte (fun _ _ _ => rfl) ?_
    rintro m rfl there
    exact absurd (congrArg Register.counterLatched (mod_eq_of_channelOf there).symm) apart
  | _ =>
    -- every other register has a field of its own
    cases other with
    | _ => first | rfl | exact absurd rfl apart

end Device
end M68HC05
