import M68HC05.Trace

/-!
Parallel ports. A port has an output latch, a direction register (1 for output) and the last
sampled levels of its pins. Only bonded pins take part in writes. What the program reads, and
what the board sees, is the latch on output pins and the sample on input pins.
-/

namespace M68HC05

structure Port where
  /-- pins that are bonded out -/
  bonded : UInt8
  input : UInt8
  latch : UInt8
  direction : UInt8
  deriving DecidableEq

namespace Port

/-- A port whose pins float high and are all inputs. -/
def ofBonded (bonded : UInt8) : Port where
  bonded
  input := 0xFF
  latch := 0xFF
  direction := 0x00

/-- The visible value: the latch on outputs, the sample on inputs. -/
def value (port : Port) : UInt8 :=
  (port.latch &&& port.direction) ||| (port.input &&& ~~~port.direction)

/-- The bonded pins that are inputs. -/
def inputMask (port : Port) : UInt8 :=
  ~~~port.direction &&& port.bonded

/-- Fills the registers that reset leaves alone. -/
def powerOn (port : Port) : Port :=
  { port with input := 0xFF, latch := 0xFF }

/-- Makes every pin an input. -/
def reset (port : Port) : Port :=
  { port with direction := 0x00 }

/-- What the board is told when an output changes. -/
def driven (index : PortIndex) (port : Port) : Entry :=
  .signal (.drive index port.value port.direction)

/-- Takes over the sampled levels of the bonded pins. -/
def accept (index : PortIndex) (port : Port) (pins : UInt8) : Outcome Port Unit :=
  let input := pins &&& port.bonded
  { value := ()
    next := { port with input }
    report :=
      if input ≠ port.input then
        [.remark (.portSampled index input port.inputMask port.input)]
      else [] }

/-- Writes the latch. The board hears of it if an output pin changes. -/
def writeLatch (index : PortIndex) (port : Port) (data : UInt8) : Outcome Port Unit :=
  let data := data &&& port.bonded
  let changed := port.latch ^^^ data
  let next := { port with latch := data }
  { value := ()
    next
    report :=
      (if changed ≠ 0 then [.remark (.latchWritten index data port.direction port.latch)] else [])
        ++ if changed &&& port.direction ≠ 0 then [driven index next] else [] }

/-- Writes the direction register. The board hears of every change. -/
def writeDirection (index : PortIndex) (port : Port) (data : UInt8) : Outcome Port Unit :=
  let data := data &&& port.bonded
  let next := { port with direction := data }
  { value := ()
    next
    report :=
      if data ≠ port.direction then
        [.remark (.directionWritten index data port.direction), driven index next]
      else [] }

/-! ## Stored values

Inspection and restored states set registers without their side effects. Sample and latch are
stored as given, the direction within the bonded pins. -/

def setInput (port : Port) (byte : UInt8) : Port :=
  { port with input := byte }

def setLatch (port : Port) (byte : UInt8) : Port :=
  { port with latch := byte }

def setDirection (port : Port) (byte : UInt8) : Port :=
  { port with direction := byte &&& port.bonded }

end Port

/-- Ports A to D. -/
abbrev Ports := Vector Port 4

namespace Ports

/-- Four ports with the given bonded pins. -/
def ofBonded (bonded : Vector UInt8 4) : Ports :=
  bonded.map Port.ofBonded

/-- Changes the bonded pins and nothing else. -/
def setBonded (ports : Ports) (bonded : Vector UInt8 4) : Ports :=
  .ofFn fun i => { ports.get i with bonded := bonded.get i }

/-- The port that an index of any size names: ports repeat every four. -/
def wrapIndex (n : Nat) : PortIndex :=
  Fin.ofNat 4 n

end Ports
end M68HC05
