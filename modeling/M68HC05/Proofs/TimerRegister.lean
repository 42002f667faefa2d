import M68HC05.Proofs.Glance

/-!
The registers of the timer as the bus reaches them. Ten addresses, the same on every part, name a
byte of the timer each (`TimerRegister`), and an access to one of them makes the operation of the
timer that goes with it (`Timer.readAt`, `Timer.writeAt`). An access to any other address leaves the
timer alone. So what an access does to the timer is told by the register that it names
(`Device.read_at`, `Device.read_elsewhere`, `Device.timer_write_at`, `Device.timer_write_elsewhere`),
and not by the address map.
-/

namespace M68HC05

open M68HC05.Action

/-! ## Registers -/

/-- The registers of the timer, a byte each. -/
inductive TimerRegister where
  | control
  | status
  | capture (half : Half)
  | compare (half : Half)
  | counter (channel : Channel) (half : Half)
  deriving DecidableEq

namespace TimerRegister

/-- All registers of the timer, in the order of their addresses. -/
def all : List TimerRegister :=
  [control, status, capture .high, capture .low, compare .high, compare .low,
    counter .normal .high, counter .normal .low, counter .alternate .high, counter .alternate .low]

/-- Where a register lies. -/
def address : TimerRegister → UInt16
  | control => 0x0012
  | status => 0x0013
  | capture .high => 0x0014
  | capture .low => 0x0015
  | compare .high => 0x0016
  | compare .low => 0x0017
  | counter .normal .high => 0x0018
  | counter .normal .low => 0x0019
  | counter .alternate .high => 0x001A
  | counter .alternate .low => 0x001B

/-- The part of the timer that a register belongs to. -/
def handler : TimerRegister → Handler
  | control => .timerControl
  | status => .timerStatus
  | capture _ => .inputCapture
  | compare _ => .outputCompare
  | counter _ _ => .counter

/-- The place of a register in its part of the timer. -/
def offset : TimerRegister → UInt16
  | control => 0
  | status => 0
  | capture .high => 0
  | capture .low => 1
  | compare .high => 0
  | compare .low => 1
  | counter .normal .high => 0
  | counter .normal .low => 1
  | counter .alternate .high => 2
  | counter .alternate .low => 3

/-- The register can be written. -/
def writable : TimerRegister → Bool
  | control => true
  | compare _ => true
  | _ => false

/-- The register at an address. -/
def at? (place : UInt16) : Option TimerRegister :=
  all.find? (·.address = place)

theorem at?_address (register : TimerRegister) : at? register.address = some register := by
  cases register with
  | control => rfl
  | status => rfl
  | capture half =>
    cases half with
    | _ => rfl
  | compare half =>
    cases half with
    | _ => rfl
  | counter channel half =>
    cases channel with
    | _ =>
      cases half with
      | _ => rfl

theorem mem_all (register : TimerRegister) : register ∈ all :=
  List.mem_of_find?_eq_some register.at?_address

end TimerRegister

/-! ## Where the registers lie -/

namespace Variant

variable {variant : Variant} {address offset : UInt16} {handler : Handler}

theorem timer_reader (variant : Variant) (register : TimerRegister) :
    variant.addressMap.reader? register.address = some (register.handler, register.offset) := by
  have everywhere : ∀ register ∈ TimerRegister.all, variant.addressMap.reader? register.address =
      some (register.handler, register.offset) := by
    cases variant with
    | c4 => decide
    | c8 => decide
    | c8a => decide
  exact everywhere register register.mem_all

theorem timer_writer (variant : Variant) (register : TimerRegister) :
    variant.addressMap.writer? register.address =
      if register.writable then some (register.handler, register.offset) else none := by
  have everywhere : ∀ register ∈ TimerRegister.all, variant.addressMap.writer? register.address =
      if register.writable then some (register.handler, register.offset) else none := by
    cases variant with
    | c4 => decide
    | c8 => decide
    | c8a => decide
  exact everywhere register register.mem_all

/-- The parts of the timer are wired to nothing but its registers. -/
theorem timer_region {region : Region} (member : region ∈ variant.addressMap)
    (wired : some handler ∈ [region.read, region.write]) (inside : region.contains address = true)
    {register : TimerRegister} (part : handler = register.handler) :
    ∃ register : TimerRegister, address = register.address := by
  have place : ∀ region ∈ variant.addressMap, ∀ register ∈ TimerRegister.all,
      some register.handler ∈ [region.read, region.write] →
        0x0012 ≤ region.first.toNat ∧ region.last.toNat ≤ 0x001B := by
    cases variant with
    | c4 => decide
    | c8 => decide
    | c8a => decide
  rw [part] at wired
  obtain ⟨first, last⟩ := place region member register register.mem_all wired
  simp only [Region.contains, Bool.and_eq_true, decide_eq_true_eq, UInt16.le_iff_toNat_le] at inside
  have named : ∀ place < 10, ∃ register ∈ TimerRegister.all,
      register.address.toNat = 0x0012 + place := by decide
  obtain ⟨register, -, same⟩ := named (address.toNat - 0x0012) (by omega)
  exact ⟨register, UInt16.toNat_inj.mp (by omega)⟩

/-- A read that goes to a part of the timer names one of its registers. -/
theorem timer_read (goes : variant.addressMap.reader? address = some (handler, offset))
    {register : TimerRegister} (part : handler = register.handler) :
    ∃ register : TimerRegister, address = register.address := by
  obtain ⟨region, member, inside, reads, -⟩ := AddressMap.exists_of_reader? goes
  exact timer_region member (by simp [reads]) inside part

/-- A write that goes to a part of the timer names one of its registers. -/
theorem timer_write (goes : variant.addressMap.writer? address = some (handler, offset))
    {register : TimerRegister} (part : handler = register.handler) :
    ∃ register : TimerRegister, address = register.address := by
  obtain ⟨region, member, inside, writes, -⟩ := AddressMap.exists_of_writer? goes
  exact timer_region member (by simp [writes]) inside part

end Variant

/-! ## Operations -/

namespace Timer

/-- Reads a register. -/
def readAt (timer : Timer) (register : TimerRegister) (access : Access) : Outcome Timer UInt8 :=
  match register with
  | .control => ⟨timer.control, timer, []⟩
  | .status => timer.readStatus access
  | .capture half => timer.readCapture half access
  | .compare half => timer.readCompare half access
  | .counter channel .high => timer.readCounterHigh channel access
  | .counter channel .low => timer.readCounterLow channel access

/-- Writes a register. Only the control and the compare register take a byte. -/
def writeAt (timer : Timer) (register : TimerRegister) (byte : UInt8) (access : Access) :
    Outcome Timer Unit :=
  match register with
  | .control => timer.writeControl byte
  | .compare half => timer.writeCompare half byte access
  | _ => ⟨(), timer, []⟩

end Timer

namespace Device

variable {register : TimerRegister} {address : UInt16} {access : Access}

/-- A read of a register of the timer reads it there. -/
theorem read_at (names : busAddress address = register.address) (access : Access)
    (device : Device) :
    (Device.read address access device).1 = (device.timer.readAt register access).value ∧
      (Device.read address access device).2.timer =
        (device.timer.readAt register access).next := by
  have goes := device.variant.timer_reader register
  rw [← names] at goes
  have handled : (Device.readHandler register.handler register.offset (busAddress address) access
      device).1 = (device.timer.readAt register access).value ∧
      (Device.readHandler register.handler register.offset (busAddress address) access
        device).2.timer = (device.timer.readAt register access).next := by
    cases register with
    | control => exact ⟨rfl, rfl⟩
    | status => exact ⟨rfl, rfl⟩
    | capture half =>
      cases half with
      | _ => exact ⟨rfl, rfl⟩
    | compare half =>
      cases half with
      | _ => exact ⟨rfl, rfl⟩
    | counter channel half =>
      cases channel with
      | _ =>
        cases half with
        | _ => exact ⟨rfl, rfl⟩
  refine ⟨?_, ?_⟩
  · rw [read_value, goes]
    exact handled.1
  · refine Eq.trans ?_ handled.2
    unfold Device.read
    rw [bind_apply, get_apply]
    dsimp only
    rw [goes]
    cases access with
    | program => rfl
    | debugger => rfl

/-- A read of any other address leaves the timer alone. -/
theorem read_elsewhere (other : ∀ register : TimerRegister, busAddress address ≠ register.address) :
    Moves (Same timer) (Device.read address access) := by
  refine Moves.read (Same.flow timer) (fun variant handler offset goes => ?_) fun _ _ _ => rfl
  have apart {register : TimerRegister} : handler ≠ register.handler := fun part => by
    obtain ⟨register, names⟩ := Variant.timer_read goes part
    exact other register names
  unfold readHandler
  cases handler with
  | portData => exact Moves.readPort (Same.flow timer) (fun _ _ => rfl) fun _ _ => rfl
  | timerStatus => exact absurd rfl (@apart .status)
  | inputCapture => exact absurd rfl (@apart (.capture .high))
  | outputCompare => exact absurd rfl (@apart (.compare .high))
  | counter => exact absurd rfl (@apart (.counter .normal .high))
  | _ => exact fun _ => rfl

/-- A write to a register of the timer writes it there. -/
theorem timer_write_at (names : busAddress address = register.address) (byte : UInt8)
    (access : Access) (device : Device) :
    (Device.write address byte access device).2.timer =
      (device.timer.writeAt register byte access).next := by
  have goes := device.variant.timer_writer register
  rw [← names] at goes
  have passed (observed : Device) (variant : observed.variant = device.variant) :
      (passWrite (busAddress address) byte access observed).2.timer =
        (observed.timer.writeAt register byte access).next := by
    unfold passWrite
    rw [bind_apply, get_apply]
    dsimp only
    rw [variant, goes]
    cases register with
    | compare half =>
      cases half with
      | _ => rfl
    | _ => rfl
  unfold Device.write
  cases access with
  | program => exact passed _ rfl
  | debugger => exact passed device rfl

/-- A write to any other address leaves the timer alone. -/
theorem timer_write_elsewhere
    (other : ∀ register : TimerRegister, busAddress address ≠ register.address) (byte : UInt8) :
    Moves (Same timer) (Device.write address byte access) := by
  refine Moves.write (Same.flow timer) (fun variant handler offset goes => ?_) fun _ _ _ => rfl
  have apart {register : TimerRegister} : handler ≠ register.handler := fun part => by
    obtain ⟨register, names⟩ := Variant.timer_write goes part
    exact other register names
  unfold writeHandler
  cases handler with
  | timerControl => exact absurd rfl (@apart .control)
  | outputCompare => exact absurd rfl (@apart (.compare .high))
  | watchdogKey =>
    cases access with
    | program => exact fun _ => rfl
    | debugger => exact fun _ => rfl
  | watchdogClear =>
    cases access with
    | program => exact fun _ => rfl
    | debugger => exact fun _ => rfl
  | rom =>
    cases access with
    | program => exact fun _ => rfl
    | debugger => exact fun _ => rfl
  | _ => exact fun _ => rfl

end Device
end M68HC05
