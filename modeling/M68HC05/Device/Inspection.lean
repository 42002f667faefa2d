import M68HC05.Device.Run
import M68HC05.Register

/-!
The registers of a device by name. Reading and setting go straight to the stored values and run no
register side effect. A value is masked to the bits of its register; the stack pointer stays inside
the stack, a direction register inside the bonded pins.
-/

namespace M68HC05.Device

/-- The registers of a device in display order. -/
def registers (device : Device) : List Register :=
  Register.shared
    ++ (if device.variant.hasProgrammableWatchdog then Register.ofProgrammableWatchdog else [])
    ++ if device.variant.hasFixedWatchdog then Register.ofFixedWatchdog else []

/-- The stored value behind a register, before masking. -/
def storedValue (device : Device) : Register → UInt32
  | .pc => device.cpu.pc.toUInt32
  | .sp => device.cpu.sp.toUInt32
  | .a => device.cpu.a.toUInt32
  | .x => device.cpu.x.toUInt32
  | .cc => device.cpu.cc.toUInt32
  | .latch n => (device.ports.get (Ports.wrapIndex n)).latch.toUInt32
  | .input n => (device.ports.get (Ports.wrapIndex n)).input.toUInt32
  | .direction n =>
    if n < Register.directionCount then (device.ports.get (Ports.wrapIndex n)).direction.toUInt32
    else 0
  | .timerControl => device.timer.control.toUInt32
  | .timerStatus => device.timer.status.toUInt32
  | .statusSeen => device.timer.seen.toUInt32
  | .captureInhibit => device.timer.captureInhibited.toUInt32
  | .compareInhibit => device.timer.compareInhibited.toUInt32
  | .counterBuffer n => (device.timer.lowByte (channelOf n)).buffer.toUInt32
  | .counterLatched n => (device.timer.lowByte (channelOf n)).latched.toUInt32
  | .captureLevel => device.timer.captureLevel.toUInt32
  | .capture => device.timer.capture.toUInt32
  | .compare => device.timer.compare.toUInt32
  | .prescaler => device.timer.prescaler.toUInt32
  | .counter => device.timer.counter.toUInt32
  | .watchdogKey => device.watchdog.key.toUInt32
  | .watchdogControl => device.watchdog.control.toUInt32
  | .programmableCount => device.watchdog.programmableCount
  | .fixedEnable => device.watchdog.fixedEnabled.toUInt32
  | .fixedCount => device.watchdog.fixedCount
where
  /-- The counter channel that an index names. -/
  channelOf (n : Nat) : Channel := if n % 2 = 0 then .normal else .alternate

/-- The value of a register. -/
def register (device : Device) (register : Register) : UInt32 :=
  device.storedValue register &&& register.mask

/-- Changes the timer's stored values. -/
def changeTimer (change : Timer → Timer) : Action Unit :=
  modify fun device => { device with timer := change device.timer }

/-- Changes the watchdogs' stored values. -/
def changeWatchdog (change : Watchdog → Watchdog) : Action Unit :=
  modify fun device => { device with watchdog := change device.watchdog }

/-- Changes a port's stored values. -/
def changePort (n : Nat) (change : Port → Port) : Action Unit :=
  modify fun device =>
    let index := Ports.wrapIndex n
    { device with ports := device.ports.setIfInBounds index (change (device.ports.get index)) }

/-- Sets a register to a value, masked to its bits. A direction register that does not exist stays
unset, with a remark. -/
def setRegister (register : Register) (value : UInt32) : Action Unit :=
  let value := value &&& register.mask
  match register with
  | .pc => changeCpu fun cpu => { cpu with pc := value.toUInt16 }
  | .sp => changeCpu fun cpu => { cpu with sp := Cpu.stackAddress value.toUInt16 }
  | .a => changeCpu fun cpu => { cpu with a := value.toUInt8 }
  | .x => changeCpu fun cpu => { cpu with x := value.toUInt8 }
  | .cc => changeCpu fun cpu => { cpu with cc := value.toUInt8 }
  | .latch n => changePort n (·.setLatch value.toUInt8)
  | .input n => changePort n (·.setInput value.toUInt8)
  | .direction n =>
    if n < Register.directionCount then changePort n (·.setDirection value.toUInt8)
    else remark (.missingDirection n)
  | .timerControl => changeTimer (·.setControl value.toUInt8) *> refreshTimerRequest
  | .timerStatus => changeTimer (·.setStatus value.toUInt8) *> refreshTimerRequest
  | .statusSeen => changeTimer (·.setSeen value.toUInt8)
  | .captureInhibit => changeTimer ({ · with captureInhibited := value ≠ 0 })
  | .compareInhibit => changeTimer ({ · with compareInhibited := value ≠ 0 })
  | .counterBuffer n =>
    changeTimer fun timer =>
      let channel := storedValue.channelOf n
      timer.setLowByte channel { timer.lowByte channel with buffer := value.toUInt8 }
  | .counterLatched n =>
    changeTimer fun timer =>
      let channel := storedValue.channelOf n
      timer.setLowByte channel { timer.lowByte channel with latched := value ≠ 0 }
  | .captureLevel => changeTimer ({ · with captureLevel := value ≠ 0 })
  | .capture => changeTimer ({ · with capture := value.toUInt16 })
  | .compare => changeTimer ({ · with compare := value.toUInt16 })
  | .prescaler => changeTimer (·.setPrescaler value.toUInt8)
  | .counter => changeTimer ({ · with counter := value.toUInt16 })
  | .watchdogKey => changeWatchdog (·.setKey value.toUInt8)
  | .watchdogControl => changeWatchdog (·.setControl value.toUInt8)
  | .programmableCount => changeWatchdog (·.setProgrammableCount value)
  | .fixedEnable => onWatchdog (·.switchFixed (value ≠ 0))
  | .fixedCount => changeWatchdog (·.setFixedCount value)

end M68HC05.Device
