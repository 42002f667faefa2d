import M68HC05.Device

/-!
The bus of a device. A read or write goes where the address map of the part sends it. Reads of
unmapped addresses give 0xFF and writes to them are lost. Program accesses are reported to the
watch list, a read after it is made and a write before.
-/

namespace M68HC05.Device

/-! ## Reads -/

/-- Reads the data register of a port. A program read samples the pins first. -/
def readPort (index : PortIndex) (access : Access) : Action UInt8 := do
  if access = .program then
    let mask := ((← get).ports.get index).inputMask
    let pins? ← modifyGet fun device =>
      let (pins?, bench) := device.bench.sample index mask
      (pins?, { device with bench })
    if let some pins := pins? then
      onPort index (·.accept index pins)
  return ((← get).ports.get index).value

/-- A read that a handler answers; `offset` is the place in the handler's range. -/
def readHandler (handler : Handler) (offset address : UInt16) (access : Access) :
    Action UInt8 :=
  match handler with
  | .portData => readPort (Ports.wrapIndex offset.toNat) access
  | .portDirection => return ((← get).ports.get (Ports.wrapIndex offset.toNat)).direction
  | .timerControl => return (← get).timer.control
  | .timerStatus => onTimer (·.readStatus access)
  | .inputCapture => onTimer (·.readCapture (.ofOffset offset) access) <* refreshTimerRequest
  | .outputCompare => onTimer (·.readCompare (.ofOffset offset) access) <* refreshTimerRequest
  | .counter => onTimer (·.readCounter offset access) <* refreshTimerRequest
  | .watchdogControl => onWatchdog (·.readControl access)
  | .rom | .ram => return (← get).memory.read address
  | .watchdogKey | .watchdogClear => return 0xFF

/-- Reads a byte. -/
def read (address : UInt16) (access : Access) : Action UInt8 := do
  let address := busAddress address
  let byte ← match (← get).variant.addressMap.reader? address with
    | some (handler, offset) => readHandler handler offset address access
    | none => pure 0xFF
  if access = .program then
    observe address .read byte none
  return byte

/-- Reads a word, high byte first. -/
def readWord (address : UInt16) (access : Access) : Action UInt16 := do
  let high ← read address access
  let low ← read (address + 1) access
  return joinBytes high low

/-! ## Writes -/

/-- Stores a byte in the memory image. -/
def store (address : UInt16) (byte : UInt8) : Action Unit :=
  modify fun device => { device with memory := device.memory.write address byte }

/-- A write that a handler takes. A debugger stores a watchdog key without serving the watchdog,
leaves the clear register alone, and may patch ROM. -/
def writeHandler (handler : Handler) (offset address : UInt16) (byte : UInt8)
    (access : Access) : Action Unit :=
  match handler with
  | .portData =>
    let index := Ports.wrapIndex offset.toNat
    onPort index (·.writeLatch index byte)
  | .portDirection =>
    let index := Ports.wrapIndex offset.toNat
    onPort index (·.writeDirection index byte)
  | .timerControl => onTimer (·.writeControl byte) *> refreshTimerRequest
  | .outputCompare =>
    onTimer (·.writeCompare (.ofOffset offset) byte access) *> refreshTimerRequest
  | .watchdogKey =>
    match access with
    | .debugger => modify fun device => { device with watchdog := device.watchdog.setKey byte }
    | .program => onWatchdog (·.writeKey byte)
  | .watchdogControl => onWatchdog (·.writeControl byte)
  | .watchdogClear =>
    match access with
    | .debugger => pure ()
    | .program => onWatchdog (·.writeClear byte)
  | .ram => store address byte
  | .rom =>
    match access with
    | .debugger => store address byte
    | .program => pure ()
  | .timerStatus | .inputCapture | .counter => pure ()

/-- Passes a write on to the handler of its address, if there is one. -/
def passWrite (address : UInt16) (byte : UInt8) (access : Access) : Action Unit := do
  match (← get).variant.addressMap.writer? address with
  | some (handler, offset) => writeHandler handler offset address byte access
  | none => pure ()

/-- Writes a byte. -/
def write (address : UInt16) (byte : UInt8) (access : Access) : Action Unit := do
  let address := busAddress address
  if access = .program then
    observe address .write byte (some ((← get).memory.read address))
  passWrite address byte access

end M68HC05.Device
