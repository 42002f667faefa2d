import M68HC05.Failure
import M68HC05.Snapshot

/-!
The byte form of a snapshot. A `Coder` pairs an encoder with a decoder that takes an encoding off
the front of a list of bytes; coders of compound values are built from coders of their parts, in
the order in which the parts are written. Numbers are little endian and have a fixed width, a truth
value is one byte 0 or 1, a run state is a number of four bytes, and a byte string is preceded by
its length in eight bytes.
-/

namespace M68HC05

/-- An encoder and the decoder that undoes it. -/
structure Coder (α : Type) where
  encode : α → List UInt8
  decode : List UInt8 → Except PayloadFault (α × List UInt8)

namespace Coder

variable {α β : Type}

/-- The encoding of a value and the encoding of another after it. -/
def pair (first : Coder α) (second : Coder β) : Coder (α × β) where
  encode value := first.encode value.1 ++ second.encode value.2
  decode bytes := do
    let (a, bytes) ← first.decode bytes
    let (b, bytes) ← second.decode bytes
    return ((a, b), bytes)

/-- The same encoding for another form of the value. -/
def via (coder : Coder α) (toPart : β → α) (ofPart : α → β) : Coder β where
  encode value := coder.encode (toPart value)
  decode bytes := do
    let (a, bytes) ← coder.decode bytes
    return (ofPart a, bytes)

/-! ## Numbers -/

/-- The `width` lowest bytes of a number, lowest first. -/
def littleEndian : (width n : Nat) → List UInt8
  | 0, _ => []
  | width + 1, n => UInt8.ofNat n :: littleEndian width (n / 256)

/-- The number that bytes stand for, lowest first. -/
def ofLittleEndian : List UInt8 → Nat
  | [] => 0
  | byte :: bytes => byte.toNat + 256 * ofLittleEndian bytes

/-- A number of fixed width. -/
def number (width : Nat) : Coder Nat where
  encode := littleEndian width
  decode bytes :=
    if width ≤ bytes.length then .ok (ofLittleEndian (bytes.take width), bytes.drop width)
    else .error .endOfInput

def byte : Coder UInt8 := (number 1).via UInt8.toNat UInt8.ofNat

def word16 : Coder UInt16 := (number 2).via UInt16.toNat UInt16.ofNat

def word32 : Coder UInt32 := (number 4).via UInt32.toNat UInt32.ofNat

def word64 : Coder UInt64 := (number 8).via UInt64.toNat UInt64.ofNat

/-- A signed number of eight bytes, in two's complement. -/
def signed64 : Coder Int64 := word64.via Int64.toUInt64 UInt64.toInt64

/-! ## Other values -/

/-- A truth value. -/
def bool : Coder Bool where
  encode value := [if value then 1 else 0]
  decode bytes := do
    let (number, bytes) ← byte.decode bytes
    if number = 0 then return (false, bytes)
    else if number = 1 then return (true, bytes)
    else throw (.badBool number)

/-- The number of a run state. -/
def runStateNumber : RunState → UInt32
  | .running => 0
  | .wait => 1
  | .stop => 2

/-- A run state by its number. -/
def runState : Coder RunState where
  encode state := word32.encode (runStateNumber state)
  decode bytes := do
    let (number, bytes) ← word32.decode bytes
    if number = 0 then return (.running, bytes)
    else if number = 1 then return (.wait, bytes)
    else if number = 2 then return (.stop, bytes)
    else throw (.badRunState number)

/-- A byte string after its length. -/
def byteString : Coder ByteString where
  encode string := word64.encode (UInt64.ofNat string.toArray.size) ++ string.toArray.toList
  decode bytes := do
    let (length, bytes) ← word64.decode bytes
    if length.toNat ≤ bytes.length then return (.front bytes length, bytes.drop length.toNat)
    else throw .endOfInput

/-- One byte for each port. -/
def perPort : Coder (Vector UInt8 4) :=
  (byte.pair <| byte.pair <| byte.pair byte).via
    (fun bytes =>
      (bytes.get (Ports.wrapIndex 0), bytes.get (Ports.wrapIndex 1),
        bytes.get (Ports.wrapIndex 2), bytes.get (Ports.wrapIndex 3)))
    (fun (a, b, c, d) => #v[a, b, c, d])

/-! ## Snapshots -/

/-- The port registers: all inputs, all latches, all directions. -/
def ports : Coder PortRegisters :=
  (perPort.pair <| perPort.pair perPort).via
    (fun ports => (ports.input, ports.latch, ports.direction))
    (fun (input, latch, direction) => ⟨input, latch, direction⟩)

/-- The timer registers; of the two low bytes the buffers come first. -/
def timer : Coder Timer :=
  (bool.pair <| byte.pair <| byte.pair <| byte.pair <| byte.pair <|
    word16.pair <| word16.pair <| word16.pair <|
    bool.pair <| bool.pair <| byte.pair <| byte.pair <| bool.pair bool).via
    (fun timer =>
      (timer.captureLevel, timer.control, timer.status, timer.seen, timer.prescaler,
        timer.counter, timer.capture, timer.compare,
        timer.captureInhibited, timer.compareInhibited,
        timer.normal.buffer, timer.alternate.buffer,
        timer.normal.latched, timer.alternate.latched))
    (fun (captureLevel, control, status, seen, prescaler, counter, capture, compare,
        captureInhibited, compareInhibited, normal, alternate, normalLatched, alternateLatched) =>
      { captureLevel, control, status, seen, prescaler, counter, capture, compare,
        captureInhibited, compareInhibited,
        normal := ⟨normal, normalLatched⟩, alternate := ⟨alternate, alternateLatched⟩ })

/-- The watchdog registers. -/
def watchdog : Coder Watchdog :=
  (word32.pair <| word32.pair <| byte.pair <| byte.pair bool).via
    (fun watchdog =>
      (watchdog.programmableCount, watchdog.fixedCount, watchdog.key, watchdog.control,
        watchdog.fixedEnabled))
    (fun (programmableCount, fixedCount, key, control, fixedEnabled) =>
      { programmableCount, fixedCount, key, control, fixedEnabled })

/-- The processor registers. -/
def cpu : Coder Cpu :=
  (word16.pair <| byte.pair <| byte.pair <| byte.pair <| word16.pair <|
    runState.pair word64).via
    (fun cpu => (cpu.pc, cpu.a, cpu.x, cpu.cc, cpu.sp, cpu.state, cpu.tick))
    (fun (pc, a, x, cc, sp, state, tick) => { pc, a, x, cc, sp, state, tick })

/-- A snapshot. -/
def snapshot : Coder Snapshot :=
  (cpu.pair <| word16.pair <| bool.pair <| signed64.pair <| byteString.pair <|
    ports.pair <| timer.pair watchdog).via
    (fun snapshot =>
      (snapshot.cpu, snapshot.pending, snapshot.lineAsserted, snapshot.budget, snapshot.bytes,
        snapshot.ports, snapshot.timer, snapshot.watchdog))
    (fun (cpu, pending, lineAsserted, budget, bytes, ports, timer, watchdog) =>
      { cpu, pending, lineAsserted, budget, bytes, ports, timer, watchdog })

end Coder
end M68HC05
