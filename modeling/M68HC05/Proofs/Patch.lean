import M68HC05.Proofs.PortOperation
import M68HC05.Proofs.WatchdogEvents

/-!
Writes of a debugger. An address names a register or a byte of the memory, or nothing that can be
written (`Variant.placeAt?`), and a debugger that writes to it overwrites this one place
(`Device.patched`). It advances none of what the registers go by when a program uses them
(`Device.protocol`), and the board hears of it only if the outputs of a port have changed.

The main statement is `Reachable.write_debugger`, about every device that a host can come by.
-/

namespace M68HC05

open M68HC05.Action

/-! ## Places -/

/-- A place that a debugger can write to. -/
inductive Place where
  | latch (index : PortIndex)
  | direction (index : PortIndex)
  | timerControl
  | compare (half : Half)
  | watchdogKey
  | watchdogControl
  | memory (address : UInt16)
  deriving DecidableEq

/-- The place behind a handler. Status, capture and counter registers are read only, and the clear
register of the non-programmable watchdog stores nothing. -/
def Handler.place? (handler : Handler) (offset address : UInt16) : Option Place :=
  match handler with
  | .portData => some (.latch (Ports.wrapIndex offset.toNat))
  | .portDirection => some (.direction (Ports.wrapIndex offset.toNat))
  | .timerControl => some .timerControl
  | .outputCompare => some (.compare (.ofOffset offset))
  | .watchdogKey => some .watchdogKey
  | .watchdogControl => some .watchdogControl
  | .rom | .ram => some (.memory address)
  | .timerStatus | .inputCapture | .counter | .watchdogClear => none

theorem Handler.place?_ne {handler : Handler} (other : handler ≠ .timerControl)
    (offset address : UInt16) : handler.place? offset address ≠ some .timerControl := by
  intro same
  cases handler with
  | timerControl => exact other rfl
  | _ => cases same

/-- The place that an address names. -/
def Variant.placeAt? (variant : Variant) (address : UInt16) : Option Place :=
  match variant.addressMap.writer? (busAddress address) with
  | some (handler, offset) => handler.place? offset (busAddress address)
  | none => none

namespace Device

/-- Puts a byte in a place, as far as it has the bits, and changes nothing else. -/
def put (place : Place) (byte : UInt8) (device : Device) : Device :=
  match place with
  | .latch index =>
    let port := device.ports.get index
    let next := { port with latch := byte &&& port.bonded }
    { device with ports := device.ports.setIfInBounds index next }
  | .direction index =>
    let port := device.ports.get index
    let next := { port with direction := byte &&& port.bonded }
    { device with ports := device.ports.setIfInBounds index next }
  | .timerControl =>
    { device with timer.control := byte &&& Timer.controlMask }
  | .compare half =>
    { device with timer.compare := half.replaceIn device.timer.compare byte }
  | .watchdogKey => { device with watchdog.key := byte }
  | .watchdogControl =>
    { device with watchdog.control := (device.watchdog.control &&& 0xF4) ||| (byte &&& 0x0F) }
  | .memory address => { device with memory := device.memory.write address byte }

/-- Puts a byte in a place, if there is one. -/
def patched (place? : Option Place) (byte : UInt8) (device : Device) : Device :=
  match place? with
  | some place => device.put place byte
  | none => device

/-- What the registers go by when a program uses them, with the processor and the watch list. -/
structure Protocol where
  status : UInt8
  seen : UInt8
  captureInhibited : Bool
  compareInhibited : Bool
  normal : LowByte
  alternate : LowByte
  timedOut : UInt8
  programmableCount : UInt32
  fixedCount : UInt32
  cpu : Cpu
  watches : WatchList

def protocol (device : Device) : Protocol where
  status := device.timer.status
  seen := device.timer.seen
  captureInhibited := device.timer.captureInhibited
  compareInhibited := device.timer.compareInhibited
  normal := device.timer.normal
  alternate := device.timer.alternate
  timedOut := device.watchdog.control &&& Watchdog.timeoutFlag
  programmableCount := device.watchdog.programmableCount
  fixedCount := device.watchdog.fixedCount
  cpu := device.cpu
  watches := device.watches

/-- What the board is to hear of a place that has been written: the port, if its outputs have
changed. -/
def exchangedAt (place? : Option Place) (before after : Device) : List Signal :=
  match place? with
  | some (.latch index) | some (.direction index) =>
    Port.exchanged index false (before.ports.get index) (after.ports.get index)
  | _ => []

variable {device : Device}

theorem protocol_patched (place? : Option Place) (byte : UInt8) (device : Device) :
    (device.patched place? byte).protocol = device.protocol := by
  cases place? with
  | none => rfl
  | some place =>
    cases place with
    | watchdogControl =>
      exact congrArg (fun timedOut => { device.protocol with timedOut })
        (device.watchdog.timeoutFlag_writeControl byte)
    | _ => rfl

/-- Only the control register of the timer has a say in what the timer requests. -/
theorem requests_patched {place? : Option Place} (other : place? ≠ some .timerControl)
    (byte : UInt8) (device : Device) :
    (device.patched place? byte).timer.requests = device.timer.requests := by
  cases place? with
  | none => rfl
  | some place =>
    cases place with
    | timerControl => exact absurd rfl other
    | _ => rfl

theorem Mirrors.pending_patched (mirrors : device.Mirrors) {place? : Option Place}
    (other : place? ≠ some .timerControl) (byte : UInt8) :
    mirrored device.pending (device.patched place? byte).timer.requests = device.pending := by
  rw [requests_patched other]
  exact mirrors.symm

theorem Mirrors.writeHandler_patched (mirrors : device.Mirrors) (handler : Handler)
    (offset address : UInt16) (byte : UInt8) :
    ∃ bench, (Device.writeHandler handler offset address byte .debugger device).2 =
      { device.patched (handler.place? offset address) byte with
        pending := mirrored device.pending
          (device.patched (handler.place? offset address) byte).timer.requests
        bench } := by
  cases handler with
  | timerControl => exact ⟨_, rfl⟩
  | outputCompare => exact ⟨_, rfl⟩
  | _ =>
    rw [mirrors.pending_patched (Handler.place?_ne (by decide) offset address)]
    exact ⟨_, rfl⟩

theorem writeHandler_debugger_sends (handler : Handler) (offset address : UInt16) (byte : UInt8)
    (device : Device) :
    Bench.Sent (exchangedAt (handler.place? offset address) device
        (Device.writeHandler handler offset address byte .debugger device).2) device.bench
      (Device.writeHandler handler offset address byte .debugger device).2.bench := by
  cases handler with
  | portData =>
    have sent := (PortOperation.writeLatch byte).run_sends (Ports.wrapIndex offset.toNat) device
    rw [PortOperation.signals_eq] at sent
    exact sent
  | portDirection =>
    have sent := (PortOperation.writeDirection byte).run_sends (Ports.wrapIndex offset.toNat) device
    rw [PortOperation.signals_eq] at sent
    exact sent
  | _ => exact writeHandler_unheard (by decide) (by decide) offset address byte .debugger device

/-- A debugger writes to the handler of the address, and the watch list takes no note. -/
theorem write_debugger_apply (address : UInt16) (byte : UInt8) (device : Device) :
    (Device.write address byte .debugger device).2 =
      match device.variant.addressMap.writer? (busAddress address) with
      | some (handler, offset) =>
        (Device.writeHandler handler offset (busAddress address) byte .debugger device).2
      | none => device := by
  change (passWrite (busAddress address) byte .debugger device).2 = _
  unfold passWrite
  rw [bind_apply, get_apply]
  dsimp only
  rcases device.variant.addressMap.writer? (busAddress address) with _ | ⟨handler, offset⟩
  · rfl
  · rfl

theorem Mirrors.write_patched (mirrors : device.Mirrors) (address : UInt16) (byte : UInt8) :
    ∃ bench, (Device.write address byte .debugger device).2 =
      { device.patched (device.variant.placeAt? address) byte with
        pending := mirrored device.pending
          (device.patched (device.variant.placeAt? address) byte).timer.requests
        bench } := by
  rw [write_debugger_apply]
  unfold Variant.placeAt?
  rcases device.variant.addressMap.writer? (busAddress address) with _ | ⟨handler, offset⟩
  · refine ⟨device.bench, ?_⟩
    exact congrArg (fun pending => { device with pending }) mirrors
  · exact mirrors.writeHandler_patched handler offset (busAddress address) byte

theorem write_debugger_sends (address : UInt16) (byte : UInt8) (device : Device) :
    Bench.Sent (exchangedAt (device.variant.placeAt? address) device
        (Device.write address byte .debugger device).2) device.bench
      (Device.write address byte .debugger device).2.bench := by
  rw [write_debugger_apply]
  unfold Variant.placeAt?
  rcases device.variant.addressMap.writer? (busAddress address) with _ | ⟨handler, offset⟩
  · exact .refl device.bench
  · exact writeHandler_debugger_sends handler offset (busAddress address) byte device

end Device

/-- A debugger that writes to an address overwrites the place that the address names, if there is
one, and no other part of the device. The timer's bit of the pending mask goes with the control
register of the timer. Nothing is advanced of what the registers go by when a program uses them, and
the board hears of a port whose outputs have changed, and of nothing else. -/
theorem Reachable.write_debugger {device : Device} (reachable : Reachable device)
    (address : UInt16) (byte : UInt8) :
    let place? := device.variant.placeAt? address
    let after := (Device.write address byte .debugger device).2
    (∃ bench, after = { device.patched place? byte with
        pending := Device.mirrored device.pending (device.patched place? byte).timer.requests
        bench }) ∧
      (place? ≠ some .timerControl → after.pending = device.pending) ∧
      after.pending &&& ~~~InterruptLine.timer.bit =
        device.pending &&& ~~~InterruptLine.timer.bit ∧
      after.protocol = device.protocol ∧
      Bench.Sent (Device.exchangedAt place? device after) device.bench after.bench := by
  intro place? after
  have mirrors := reachable.mirrors
  have sent : Bench.Sent (Device.exchangedAt place? device after) device.bench after.bench :=
    Device.write_debugger_sends address byte device
  obtain ⟨bench, same⟩ := mirrors.write_patched address byte
  change after = _ at same
  have pending : after.pending =
      Device.mirrored device.pending (device.patched place? byte).timer.requests :=
    congrArg Device.pending same
  have protocol : after.protocol = device.protocol :=
    (congrArg Device.protocol same).trans (Device.protocol_patched place? byte device)
  refine ⟨⟨bench, same⟩, fun other => ?_, ?_, protocol, sent⟩
  · rw [pending, mirrors.pending_patched other]
  · rw [pending, Device.mirrored_and_not_timer]

/-- A debugger that writes to the control register of the timer after a start. -/
theorem Reachable.write_debugger_after_start :
    Reachable (Operation.start.run (.new .c4 4000000)).2 ∧
      (Device.write 0x0012 0xFF .debugger
        (Operation.start.run (.new .c4 4000000)).2).2.timer.control = 0xE3 ∧
      (Device.write 0x0012 0xFF .debugger
        (Operation.start.run (.new .c4 4000000)).2).2.protocol =
          (Operation.start.run (.new .c4 4000000)).2.protocol := by
  have reachable := Reachable.operate .start (.new .c4 4000000)
  obtain ⟨⟨bench, same⟩, -, -, protocol, -⟩ := reachable.write_debugger 0x0012 0xFF
  exact ⟨reachable, congrArg (·.timer.control) same, protocol⟩

end M68HC05
