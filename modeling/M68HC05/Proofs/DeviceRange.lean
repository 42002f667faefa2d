import M68HC05.Proofs.Mirror
import M68HC05.Proofs.PeripheralRange

/-!
The peripherals of a device stay in range, whatever its host asks of it. Handlers and the passing
of time operate the peripherals one at a time, so the lemmas about the peripherals are put together
here; a start or reset brings the ports in range by itself.
-/

namespace M68HC05

open M68HC05.Action

namespace Device

/-- The peripherals of a device are in range, and only the two known lines are pending. -/
structure PeripheralsInRange (device : Device) : Prop where
  timer : device.timer.InRange
  watchdog : device.watchdog.InRange
  pending : HasOnly pendingMask device.pending
  ports : device.ports.InRange device.started

namespace PeripheralsInRange

variable {device : Device}

theorem timerBit (pending : UInt16) (requests : Bool) (within : HasOnly pendingMask pending) :
    HasOnly pendingMask (mirrored pending requests) := by
  unfold mirrored
  cases requests with
  | true => exact within.or16 (by decide)
  | false => exact within.and_left _

theorem refresh : Moves (Kept PeripheralsInRange) refreshTimerRequest :=
  fun _ range => ⟨range.timer, range.watchdog, timerBit _ _ range.pending, range.ports⟩

theorem onTimer {α : Type} {operation : Timer → Outcome Timer α}
    (stays : ∀ timer, timer.InRange → (operation timer).next.InRange) :
    Moves (Kept PeripheralsInRange) (Device.onTimer operation) :=
  fun _ range => ⟨stays _ range.timer, range.watchdog, range.pending, range.ports⟩

theorem onWatchdog {α : Type} {operation : Watchdog → Outcome Watchdog α}
    (stays : ∀ watchdog, watchdog.InRange → (operation watchdog).next.InRange) :
    Moves (Kept PeripheralsInRange) (Device.onWatchdog operation) :=
  fun _ range => ⟨range.timer, stays _ range.watchdog, range.pending, range.ports⟩

theorem changeTimer {change : Timer → Timer}
    (stays : ∀ timer, timer.InRange → (change timer).InRange) :
    Moves (Kept PeripheralsInRange) (Device.changeTimer change) :=
  fun _ range => ⟨stays _ range.timer, range.watchdog, range.pending, range.ports⟩

theorem changeWatchdog {change : Watchdog → Watchdog}
    (stays : ∀ watchdog, watchdog.InRange → (change watchdog).InRange) :
    Moves (Kept PeripheralsInRange) (Device.changeWatchdog change) :=
  fun _ range => ⟨range.timer, stays _ range.watchdog, range.pending, range.ports⟩

/-- An operation of a port stays in range if it leaves the direction register alone. -/
theorem onPort {α : Type} {index : PortIndex} {operation : Port → Outcome Port α}
    (bonded : ∀ port, (operation port).next.bonded = port.bonded)
    (direction : ∀ port, (operation port).next.direction = port.direction) :
    Moves (Kept PeripheralsInRange) (Device.onPort index operation) :=
  fun _ range =>
    ⟨range.timer, range.watchdog, range.pending, range.ports.set_same (bonded _) (direction _)⟩

/-! ## Accesses -/

theorem readHandler (handler : Handler) (offset address : UInt16) (access : Access) :
    Moves (Kept PeripheralsInRange) (readHandler handler offset address access) := by
  have flow := Kept.flow PeripheralsInRange
  unfold Device.readHandler
  cases handler with
  | portData =>
    refine Moves.readPort flow (fun _ _ range => ?_) fun pins => onPort (fun _ => rfl) fun _ => rfl
    exact ⟨range.timer, range.watchdog, range.pending, range.ports⟩
  | portDirection => exact flow.refl
  | timerControl => exact flow.refl
  | timerStatus => exact onTimer fun _ range => range.readStatus access
  | inputCapture => exact flow.seqLeft (onTimer fun _ range => range.readCapture _ access) refresh
  | outputCompare => exact flow.seqLeft (onTimer fun _ range => range.readCompare _ access) refresh
  | counter => exact flow.seqLeft (onTimer fun _ range => range.readCounter _ access) refresh
  | watchdogControl => exact onWatchdog fun _ range => range.readControl access
  | rom => exact flow.refl
  | ram => exact flow.refl
  | watchdogKey => exact flow.refl
  | watchdogClear => exact flow.refl

theorem store (address : UInt16) (byte : UInt8) :
    Moves (Kept PeripheralsInRange) (store address byte) :=
  fun _ range => ⟨range.timer, range.watchdog, range.pending, range.ports⟩

/-- A write stays in range; that of a direction register because port D has none. -/
theorem writeHandler {handler : Handler} {offset : UInt16}
    (notD : handler = .portDirection → Ports.wrapIndex offset.toNat ≠ 3) (address : UInt16)
    (byte : UInt8) (access : Access) :
    Moves (Kept PeripheralsInRange) (writeHandler handler offset address byte access) := by
  have flow := Kept.flow PeripheralsInRange
  unfold Device.writeHandler
  cases handler with
  | portData => exact onPort (fun _ => rfl) fun _ => rfl
  | portDirection =>
    intro device range
    refine ⟨range.timer, range.watchdog, range.pending, range.ports.set ?_ ?_⟩
    · exact fun atD => absurd atD (notD rfl)
    · exact fun _ => .cut _ _
  | timerControl => exact flow.seqRight (onTimer fun _ range => range.writeControl byte) refresh
  | outputCompare =>
    exact flow.seqRight (onTimer fun _ range => range.writeCompare _ byte access) refresh
  | watchdogKey =>
    cases access with
    | debugger => exact changeWatchdog fun _ range => range.setKey byte
    | program => exact onWatchdog fun _ range => range.writeKey byte
  | watchdogControl => exact onWatchdog fun _ range => range.writeControl byte
  | watchdogClear =>
    cases access with
    | debugger => exact flow.refl
    | program => exact onWatchdog fun _ range => range.writeClear byte
  | ram => exact store address byte
  | rom =>
    cases access with
    | debugger => exact store address byte
    | program => exact flow.refl
  | timerStatus => exact flow.refl
  | inputCapture => exact flow.refl
  | counter => exact flow.refl

theorem busFlow : BusFlow (Kept PeripheralsInRange) where
  toFlow := Kept.flow PeripheralsInRange
  cpu _ _ range := ⟨range.timer, range.watchdog, range.pending, range.ports⟩
  bench _ _ range := ⟨range.timer, range.watchdog, range.pending, range.ports⟩
  watched _ _ _ range := ⟨range.timer, range.watchdog, range.pending, range.ports⟩
  readHandler _ access := readHandler _ _ _ access
  writeHandler goes byte access := by
    refine writeHandler ?_ _ byte access
    rintro rfl
    exact Variant.direction_write goes

/-! ## Time and reset -/

theorem charge (cycles : Nat) : Moves (Kept PeripheralsInRange) (charge cycles) := by
  have flow := Kept.flow PeripheralsInRange
  unfold Device.charge
  refine flow.bind (busFlow.changeCpu _) fun _ => ?_
  refine flow.bind (onTimer fun _ range => range.advance cycles) fun _ => ?_
  refine flow.bind refresh fun _ => Moves.get fun device => ?_
  refine flow.bind (onWatchdog fun _ range => range.advance device.variant.watchdogs cycles)
    fun _ => ?_
  refine .ite (fun _ => ?_) fun _ => flow.pure ()
  exact fun _ range => ⟨range.timer, range.watchdog, range.pending, range.ports⟩

/-- A reset needs only timer and watchdogs in range. -/
theorem of_reset (timer : device.timer.InRange) (watchdog : device.watchdog.InRange) :
    (Device.reset device).2.PeripheralsInRange := by
  have latched : Moves (Kept PeripheralsInRange) latchMaskOption := by
    unfold latchMaskOption
    refine Moves.get fun device => .ite (fun _ => ?_) fun _ => ?_
    · exact onWatchdog fun _ range => range.switchFixed _
    · exact (Kept.flow PeripheralsInRange).refl
  have cleared : PeripheralsInRange { device with
      cpu := device.cpu.reset
      pending := 0
      resetDue := false
      ports := device.ports.map Port.reset
      timer := device.timer.reset
      watchdog := device.watchdog.reset
      bench := device.bench.add (.remark (.deviceReset device.variant)) } :=
    ⟨timer.reset, watchdog.reset, UInt16.zero_and, Ports.inRange_reset _⟩
  exact busFlow.jumpThrough resetVector _ (refresh _ (latched _ cleared))

/-! ## Registers -/

theorem changePort (n : Nat) {change : Port → Port}
    (bonded : ∀ port, (change port).bonded = port.bonded)
    (direction : ∀ port, (change port).direction = port.direction) :
    Moves (Kept PeripheralsInRange) (changePort n change) :=
  fun _ range =>
    ⟨range.timer, range.watchdog, range.pending, range.ports.set_same (bonded _) (direction _)⟩

/-- Ports A to C, which have a direction register, are not port D. -/
theorem setDirection {n : Nat} (known : n < Register.directionCount) (byte : UInt8) :
    Moves (Kept PeripheralsInRange) (Device.changePort n (·.setDirection byte)) := by
  intro device range
  refine ⟨range.timer, range.watchdog, range.pending, range.ports.set ?_ fun _ => .cut _ _⟩
  intro atD
  have value : n % 4 = 3 := congrArg Fin.val atD
  unfold Register.directionCount at known
  omega

theorem setRegister (register : Register) (value : UInt32) :
    Moves (Kept PeripheralsInRange) (setRegister register value) := by
  have flow := Kept.flow PeripheralsInRange
  unfold Device.setRegister
  cases register with
  | pc => exact busFlow.changeCpu _
  | sp => exact busFlow.changeCpu _
  | a => exact busFlow.changeCpu _
  | x => exact busFlow.changeCpu _
  | cc => exact busFlow.changeCpu _
  | latch n => exact changePort n (fun _ => rfl) fun _ => rfl
  | input n => exact changePort n (fun _ => rfl) fun _ => rfl
  | direction n => exact .ite (fun known => setDirection known _) fun _ => busFlow.remark _
  | timerControl =>
    refine flow.seqRight (changeTimer fun timer range => ?_) refresh
    exact ⟨.cut _ _, range.status, range.seen, range.prescaler⟩
  | timerStatus =>
    refine flow.seqRight (changeTimer fun timer range => ?_) refresh
    exact ⟨range.control, .cut _ _, range.seen, range.prescaler⟩
  | statusSeen =>
    refine changeTimer fun timer range => ?_
    exact ⟨range.control, range.status, .cut _ _, range.prescaler⟩
  | counterBuffer n => exact changeTimer fun _ range => range.setLowByte _ _
  | counterLatched n => exact changeTimer fun _ range => range.setLowByte _ _
  | prescaler => exact changeTimer fun _ range => range.setPrescaler _
  | watchdogKey => exact changeWatchdog fun _ range => range.setKey _
  | watchdogControl =>
    refine changeWatchdog fun watchdog range => ?_
    exact ⟨.cut _ _, range.programmableCount, range.fixedCount⟩
  | programmableCount => exact changeWatchdog fun _ range => range.setProgrammableCount _
  | fixedEnable => exact onWatchdog fun _ range => range.switchFixed _
  | fixedCount => exact changeWatchdog fun _ range => range.setFixedCount _
  | _ =>
    refine changeTimer fun timer range => ?_
    exact ⟨range.control, range.status, range.seen, range.prescaler⟩

/-- Whatever a host asks of a device, its peripherals stay in range. -/
theorem hostFlow : HostFlow (Kept PeripheralsInRange) where
  toBusFlow := busFlow
  grant _ _ range := ⟨range.timer, range.watchdog, range.pending, range.ports⟩
  stop _ _ range := ⟨range.timer, range.watchdog, range.pending, range.ports⟩
  consume _ range := ⟨range.timer, range.watchdog, range.pending.and_left _, range.ports⟩
  charge := charge
  reset _ range := of_reset range.timer range.watchdog
  start _ range := of_reset range.timer.powerOn range.watchdog.powerOn
  setInterruptLine asserted device range := by
    unfold Device.setInterruptLine
    rw [bind_apply, get_apply]
    dsimp only
    rw [Action.ite_apply]
    split
    · exact ⟨range.timer, range.watchdog, range.pending.or16 (by decide), range.ports⟩
    · exact ⟨range.timer, range.watchdog, range.pending, range.ports⟩
  setCaptureLine level :=
    (Kept.flow _).bind (onTimer fun _ range => range.setCaptureLevel level) fun _ => refresh
  setRegister := setRegister

end PeripheralsInRange
end Device
end M68HC05
