import M68HC05.Bench
import M68HC05.Cpu
import M68HC05.Failure
import M68HC05.Memory
import M68HC05.Port
import M68HC05.Timer
import M68HC05.Watchdog
import M68HC05.Watchpoint

/-!
A device of the family: processor, memory and peripherals of one part, the bench it sits on, and
the marks a debugger has set. Fields hold raw words; what keeps them in their ranges are the
operations. `Device.Access` gives the bus, `Device.Execution` the instructions, `Device.Run` the
clock, `Device.Inspection` the registers by name.
-/

namespace M68HC05

structure Device where
  variant : Variant
  /-- oscillator frequency in hertz; the bus runs at half of it -/
  clock : UInt32
  cpu : Cpu
  memory : Memory
  ports : Ports
  timer : Timer
  watchdog : Watchdog
  /-- pending interrupts, one bit for a line -/
  pending : UInt16
  /-- the external interrupt line is asserted -/
  lineAsserted : Bool
  started : Bool
  /-- cycles granted and not yet used; negative after an overrun -/
  budget : Int64
  /-- a watchdog has run out; the device is reset after the current instruction -/
  resetDue : Bool
  breakpoints : List UInt16
  /-- the last run ended at a breakpoint or watchpoint -/
  breakpointHit : Bool
  watches : WatchList
  bench : Bench

/-! ## Actions -/

/-- A step of a device that answers with a value. -/
abbrev Action := StateM Device

/-! An action is a function of the device. The equations below say what each building block does to
a given device; `(rfl)` keeps them plain equations, so that a condition and its decision procedure
are simplified together. -/

namespace Action

variable {α β : Type}

theorem bind_apply (action : Action α) (next : α → Action β) (device : Device) :
    (action >>= next) device = next (action device).1 (action device).2 := (rfl)

theorem pure_apply (value : α) (device : Device) :
    (pure value : Action α) device = (value, device) := (rfl)

theorem get_apply (device : Device) : (get : Action Device) device = (device, device) := (rfl)

theorem modify_apply (change : Device → Device) (device : Device) :
    (modify change : Action Unit) device = ((), change device) := (rfl)

theorem modifyGet_apply (change : Device → α × Device) (device : Device) :
    (modifyGet change : Action α) device = change device := (rfl)

theorem seqLeft_apply (first : Action α) (second : Action β) (device : Device) :
    (first <* second) device = ((first device).1, (second (first device).2).2) := (rfl)

theorem ite_apply (c : Prop) [Decidable c] (yes no : Action α) (device : Device) :
    (if c then yes else no) device = if c then yes device else no device := by
  split <;> rfl

end Action

namespace Device

/-- A device of a part as it leaves the factory, on a bare bench and not started. -/
def new (variant : Variant) (clock : UInt32) : Device where
  variant
  clock
  cpu := .initial
  memory := .zero
  ports := .ofBonded variant.bondedPins
  timer := .initial
  watchdog := .initial
  pending := 0
  lineAsserted := false
  started := false
  budget := 0
  resetDue := false
  breakpoints := []
  breakpointHit := false
  watches := .empty
  bench := .bare

/-- Replaces the bonded pins of the ports, which is allowed until the device is started. -/
def setBondedPins (device : Device) (bonded : Vector UInt8 4) : Except Failure Device :=
  if device.started then .error .alreadyConfigured
  else .ok { device with ports := device.ports.setBonded bonded }

/-- Copies an image into the memory at `offset`, if all of it fits. -/
def loadImage (device : Device) (offset : UInt16) (image : Array UInt8) :
    Except Failure Device :=
  match device.memory.load? offset image with
  | some memory => .ok { device with memory }
  | none => .error (.imageOverflow offset image.size)

/-! ## Parts of a device as the object of an action -/

/-- Changes the processor registers. -/
def changeCpu (change : Cpu → Cpu) : Action Unit :=
  modify fun device => { device with cpu := change device.cpu }

/-- Adds a remark to the trace. -/
def remark (remark : Remark) : Action Unit :=
  modify fun device => { device with bench := device.bench.add (.remark remark) }

/-- Sends a signal to the board. -/
def signal (signal : Signal) : Action Unit :=
  modify fun device => { device with bench := device.bench.add (.signal signal) }

/-- Operates the timer. -/
def onTimer {α : Type} (operation : Timer → Outcome Timer α) : Action α :=
  modifyGet fun device =>
    let outcome := operation device.timer
    (outcome.value,
      { device with timer := outcome.next, bench := device.bench.record outcome.report })

/-- Operates the watchdogs. -/
def onWatchdog {α : Type} (operation : Watchdog → Outcome Watchdog α) : Action α :=
  modifyGet fun device =>
    let outcome := operation device.watchdog
    (outcome.value,
      { device with watchdog := outcome.next, bench := device.bench.record outcome.report })

/-- Operates a port. -/
def onPort {α : Type} (index : PortIndex) (operation : Port → Outcome Port α) : Action α :=
  modifyGet fun device =>
    let outcome := operation (device.ports.get index)
    (outcome.value,
      { device with
        ports := device.ports.setIfInBounds index outcome.next
        bench := device.bench.record outcome.report })

/-- Reports an access to the watch list. -/
def observe (address : UInt16) (made : WatchKind) (byte : UInt8) (previous : Option UInt8) :
    Action Unit :=
  modify fun device =>
    let outcome := device.watches.observe address made byte previous
    { device with watches := outcome.next, bench := device.bench.record outcome.report }

/-- Copies the timer's request into the pending mask. -/
def refreshTimerRequest : Action Unit :=
  modify fun device =>
    { device with
      pending :=
        if device.timer.requests then device.pending ||| InterruptLine.timer.bit
        else device.pending &&& ~~~InterruptLine.timer.bit }

end Device
end M68HC05
