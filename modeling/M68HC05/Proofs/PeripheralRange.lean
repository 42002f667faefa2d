import M68HC05.Port
import M68HC05.Proofs.Bits
import M68HC05.Timer
import M68HC05.Watchdog

/-!
Ranges of the peripheral registers. Fields hold whole words; these are the values that the
operations of the peripherals can put there. One lemma for each operation says that it stays in
range.
-/

namespace M68HC05

/-! ## Timer -/

namespace Timer

/-- The registers of a timer have only the bits that they are wired for. -/
structure InRange (timer : Timer) : Prop where
  control : HasOnly controlMask timer.control
  status : HasOnly statusMask timer.status
  seen : HasOnly statusMask timer.seen
  prescaler : timer.prescaler.toNat < divider

variable {timer : Timer}

theorem inRange_initial : initial.InRange :=
  ⟨by decide, by decide, by decide, by decide⟩

theorem InRange.powerOn (range : timer.InRange) : timer.powerOn.InRange :=
  ⟨.zero8 controlMask, .zero8 statusMask, range.seen, range.prescaler⟩

theorem InRange.reset (range : timer.InRange) : timer.reset.InRange :=
  ⟨range.control.and_left _, range.status, .zero8 statusMask, inRange_initial.prescaler⟩

theorem InRange.writeControl (range : timer.InRange) (data : UInt8) :
    (timer.writeControl data).next.InRange :=
  ⟨.cut data controlMask, range.status, range.seen, range.prescaler⟩

theorem InRange.readStatus (range : timer.InRange) (access : Access) :
    (timer.readStatus access).next.InRange := by
  cases access with
  | debugger => exact range
  | program => exact ⟨range.control, range.status, range.status, range.prescaler⟩

theorem InRange.clearFlag (range : timer.InRange) (flag : UInt8) :
    (timer.clearFlag flag).InRange := by
  unfold Timer.clearFlag
  split
  · exact ⟨range.control, range.status.and_left _, range.seen.and_left _, range.prescaler⟩
  · exact range

theorem InRange.readCapture (range : timer.InRange) (half : Half) (access : Access) :
    (timer.readCapture half access).next.InRange := by
  cases access with
  | debugger => exact range
  | program =>
    cases half with
    | high => exact ⟨range.control, range.status, range.seen, range.prescaler⟩
    | low =>
      have cleared := range.clearFlag captureFlag
      exact ⟨cleared.control, cleared.status, cleared.seen, cleared.prescaler⟩

theorem InRange.setCaptureLevel (range : timer.InRange) (level : Bool) :
    (timer.setCaptureLevel level).next.InRange := by
  have captured : HasOnly statusMask (timer.status ||| captureFlag) := range.status.or8 (by decide)
  unfold Timer.setCaptureLevel
  dsimp only
  split
  · dsimp only
    split
    · exact ⟨range.control, range.status, range.seen, range.prescaler⟩
    · exact ⟨range.control, captured, range.seen, range.prescaler⟩
  · exact ⟨range.control, range.status, range.seen, range.prescaler⟩

theorem InRange.readCompare (range : timer.InRange) (half : Half) (access : Access) :
    (timer.readCompare half access).next.InRange := by
  cases access with
  | debugger => exact range
  | program =>
    cases half with
    | high => exact range
    | low => exact range.clearFlag compareFlag

theorem InRange.writeCompare (range : timer.InRange) (half : Half) (data : UInt8)
    (access : Access) : (timer.writeCompare half data access).next.InRange := by
  cases access with
  | debugger => exact ⟨range.control, range.status, range.seen, range.prescaler⟩
  | program =>
    cases half with
    | high => exact ⟨range.control, range.status, range.seen, range.prescaler⟩
    | low =>
      have cleared := range.clearFlag compareFlag
      exact ⟨cleared.control, cleared.status, cleared.seen, cleared.prescaler⟩

theorem lowByte_setLowByte (timer : Timer) (channel other : Channel) (low : LowByte) :
    (timer.setLowByte channel low).lowByte other =
      if channel = other then low else timer.lowByte other := by
  cases channel with
  | _ =>
    cases other with
    | _ => rfl

theorem InRange.setLowByte (range : timer.InRange) (channel : Channel) (low : LowByte) :
    (timer.setLowByte channel low).InRange := by
  cases channel with
  | normal => exact ⟨range.control, range.status, range.seen, range.prescaler⟩
  | alternate => exact ⟨range.control, range.status, range.seen, range.prescaler⟩

theorem InRange.readCounterHigh (range : timer.InRange) (channel : Channel) (access : Access) :
    (timer.readCounterHigh channel access).next.InRange := by
  unfold Timer.readCounterHigh
  dsimp only
  split
  · exact range.setLowByte channel _
  · exact range

theorem InRange.readCounterLow (range : timer.InRange) (channel : Channel) (access : Access) :
    (timer.readCounterLow channel access).next.InRange := by
  cases access with
  | debugger => exact range
  | program =>
    cases channel with
    | normal => exact (range.setLowByte .normal _).clearFlag rolloverFlag
    | alternate => exact range.setLowByte .alternate _

theorem InRange.readCounter (range : timer.InRange) (offset : UInt16) (access : Access) :
    (timer.readCounter offset access).next.InRange := by
  unfold Timer.readCounter
  cases Half.ofOffset offset with
  | high => exact range.readCounterHigh _ access
  | low => exact range.readCounterLow _ access

theorem hasOnly_raised (timer : Timer) (cycles : Nat) :
    HasOnly statusMask (timer.raised cycles) := by
  unfold raised
  refine HasOnly.or8 ?_ ?_
  · split
    · decide
    · decide
  · split
    · decide
    · decide

theorem InRange.advance (range : timer.InRange) (cycles : Nat) :
    (timer.advance cycles).next.InRange where
  control := range.control
  status := range.status.or8 (hasOnly_raised timer cycles)
  seen := range.seen
  prescaler := by
    change (UInt8.ofNat ((cycles + timer.prescaler.toNat % divider) % divider)).toNat < divider
    rw [UInt8.toNat_ofNat']
    unfold divider
    omega

/-- Cutting every register to its bits brings any timer in range. -/
theorem inRange_masked (timer : Timer) : timer.masked.InRange where
  control := .cut _ _
  status := .cut _ _
  seen := .cut _ _
  prescaler := by
    change (timer.prescaler % 16).toNat < 16
    rw [UInt8.toNat_mod]
    exact Nat.mod_lt _ (by decide)

theorem InRange.setPrescaler (range : timer.InRange) (byte : UInt8) :
    (timer.setPrescaler byte).InRange :=
  ⟨range.control, range.status, range.seen,
    (inRange_masked { timer with prescaler := byte }).prescaler⟩

/-- A timer in range is not changed by cutting. -/
theorem InRange.masked_eq (range : timer.InRange) : timer.masked = timer := by
  have prescaler : timer.prescaler % 16 = timer.prescaler := by
    apply UInt8.toNat_inj.mp
    rw [UInt8.toNat_mod]
    exact Nat.mod_eq_of_lt range.prescaler
  have control : timer.control &&& controlMask = timer.control := range.control
  have status : timer.status &&& statusMask = timer.status := range.status
  have seen : timer.seen &&& statusMask = timer.seen := range.seen
  unfold masked
  rw [control, status, seen, prescaler]

end Timer

/-! ## Watchdogs -/

namespace Watchdog

/-- The registers of the watchdogs have only the bits that they are wired for. -/
structure InRange (watchdog : Watchdog) : Prop where
  control : HasOnly controlMask watchdog.control
  programmableCount : watchdog.programmableCount.toNat < programmableRange
  fixedCount : watchdog.fixedCount.toNat < fixedRange

variable {watchdog : Watchdog}

theorem inRange_initial : initial.InRange :=
  ⟨by decide, by decide, by decide⟩

theorem InRange.powerOn (range : watchdog.InRange) : watchdog.powerOn.InRange :=
  ⟨.zero8 controlMask, inRange_initial.programmableCount, range.fixedCount⟩

theorem InRange.reset (range : watchdog.InRange) : watchdog.reset.InRange :=
  ⟨range.control.and_left _, range.programmableCount, inRange_initial.fixedCount⟩

theorem InRange.writeKey (range : watchdog.InRange) (data : UInt8) :
    (watchdog.writeKey data).next.InRange := by
  refine ⟨range.control, ?_, range.fixedCount⟩
  unfold Watchdog.writeKey
  dsimp only
  split
  · rw [UInt32.toNat_and]
    exact Nat.lt_of_le_of_lt Nat.and_le_left range.programmableCount
  · exact range.programmableCount

theorem InRange.readControl (range : watchdog.InRange) (access : Access) :
    (watchdog.readControl access).next.InRange := by
  cases access with
  | debugger => exact range
  | program => exact ⟨range.control.and_left _, range.programmableCount, range.fixedCount⟩

theorem InRange.writeControl (range : watchdog.InRange) (data : UInt8) :
    (watchdog.writeControl data).next.InRange where
  control := by
    have low : HasOnly controlMask (0x0F : UInt8) := by decide
    exact (range.control.and_left 0xF4).or8 (low.and_right data)
  programmableCount := range.programmableCount
  fixedCount := range.fixedCount

theorem InRange.writeClear (range : watchdog.InRange) (data : UInt8) :
    (watchdog.writeClear data).next.InRange := by
  unfold Watchdog.writeClear
  dsimp only
  split
  · exact ⟨range.control, range.programmableCount, inRange_initial.fixedCount⟩
  · exact range

theorem InRange.switchFixed (range : watchdog.InRange) (enabled : Bool) :
    (watchdog.switchFixed enabled).next.InRange :=
  ⟨range.control, range.programmableCount, range.fixedCount⟩

theorem InRange.setKey (range : watchdog.InRange) (byte : UInt8) : (watchdog.setKey byte).InRange :=
  ⟨range.control, range.programmableCount, range.fixedCount⟩

/-- A count modulo a range is in the range. -/
theorem toNat_ofNat_mod_lt (count : Nat) {range : Nat} (positive : 0 < range) :
    (UInt32.ofNat (count % range)).toNat < range := by
  rw [UInt32.toNat_ofNat']
  exact Nat.lt_of_le_of_lt (Nat.mod_le _ _) (Nat.mod_lt _ positive)

theorem InRange.advance (range : watchdog.InRange) (kinds : WatchdogKinds) (cycles : Nat) :
    (watchdog.advance kinds cycles).next.InRange where
  control := by
    unfold Watchdog.advance
    dsimp only
    split
    · exact range.control.or8 (by decide)
    · exact range.control
  programmableCount := by
    unfold Watchdog.advance
    dsimp only
    split
    · exact toNat_ofNat_mod_lt _ (by decide)
    · exact range.programmableCount
  fixedCount := by
    unfold Watchdog.advance
    dsimp only
    split
    · exact toNat_ofNat_mod_lt _ (by decide)
    · exact range.fixedCount

/-- Cutting every register to its bits brings any watchdogs in range. -/
theorem inRange_masked (watchdog : Watchdog) : watchdog.masked.InRange where
  control := .cut _ _
  programmableCount := by
    change (watchdog.programmableCount % 0x200000).toNat < programmableRange
    rw [UInt32.toNat_mod]
    exact Nat.mod_lt _ (by decide)
  fixedCount := by
    change (watchdog.fixedCount % 0x20000).toNat < fixedRange
    rw [UInt32.toNat_mod]
    exact Nat.mod_lt _ (by decide)

theorem InRange.setProgrammableCount (range : watchdog.InRange) (count : UInt32) :
    (watchdog.setProgrammableCount count).InRange :=
  ⟨range.control, (inRange_masked { watchdog with programmableCount := count }).programmableCount,
    range.fixedCount⟩

theorem InRange.setFixedCount (range : watchdog.InRange) (count : UInt32) :
    (watchdog.setFixedCount count).InRange :=
  ⟨range.control, range.programmableCount,
    (inRange_masked { watchdog with fixedCount := count }).fixedCount⟩

/-- Watchdogs in range are not changed by cutting. -/
theorem InRange.masked_eq (range : watchdog.InRange) : watchdog.masked = watchdog := by
  have programmable : watchdog.programmableCount % 0x200000 = watchdog.programmableCount := by
    apply UInt32.toNat_inj.mp
    rw [UInt32.toNat_mod]
    exact Nat.mod_eq_of_lt range.programmableCount
  have fixed : watchdog.fixedCount % 0x20000 = watchdog.fixedCount := by
    apply UInt32.toNat_inj.mp
    rw [UInt32.toNat_mod]
    exact Nat.mod_eq_of_lt range.fixedCount
  have control : watchdog.control &&& controlMask = watchdog.control := range.control
  unfold masked
  rw [control, programmable, fixed]

end Watchdog

/-! ## Ports -/

namespace Ports

/-- Port D has no outputs, and once a device is started the outputs of a port are bonded pins. -/
structure InRange (started : Bool) (ports : Ports) : Prop where
  portD : (ports.get 3).direction = 0
  bonded : started = true → ∀ index : PortIndex,
    HasOnly (ports.get index).bonded (ports.get index).direction

variable {started : Bool} {ports : Ports}

theorem get_set (index other : PortIndex) (port : Port) :
    (ports.setIfInBounds index port).get other =
      if index.val = other.val then port else ports.get other :=
  Vector.getElem_setIfInBounds _

/-- Replacing a port by one in range. -/
theorem InRange.set (range : ports.InRange started) {index : PortIndex} {port : Port}
    (atD : index = 3 → port.direction = 0)
    (within : started = true → HasOnly port.bonded port.direction) :
    InRange started (ports.setIfInBounds index port) where
  portD := by
    rw [get_set]
    split
    · rename_i same
      exact atD (Fin.ext same)
    · exact range.portD
  bonded isStarted other := by
    rw [get_set]
    split
    · exact within isStarted
    · exact range.bonded isStarted other

/-- Replacing a port by one with the same bonded pins and the same outputs. -/
theorem InRange.set_same (range : ports.InRange started) {index : PortIndex} {port : Port}
    (bonded : port.bonded = (ports.get index).bonded)
    (direction : port.direction = (ports.get index).direction) :
    InRange started (ports.setIfInBounds index port) := by
  refine range.set ?_ ?_
  · rintro rfl
    rw [direction]
    exact range.portD
  · intro isStarted
    rw [bonded, direction]
    exact range.bonded isStarted index

/-- Ports without outputs are in range. -/
theorem inRange_of_inputs (inputs : ∀ index : PortIndex, (ports.get index).direction = 0) :
    InRange started ports where
  portD := inputs 3
  bonded _ index := by
    rw [inputs index]
    exact .zero8 _

/-- Reset makes all pins inputs. -/
theorem inRange_reset (ports : Ports) : InRange started (ports.map Port.reset) := by
  apply inRange_of_inputs
  intro index
  have value : (ports.map Port.reset).get index = (ports.get index).reset := Vector.getElem_map _ _
  rw [value]
  rfl

end Ports
end M68HC05
