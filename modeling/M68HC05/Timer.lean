import M68HC05.Trace

/-!
The sixteen-bit timer. A free-running counter is fed from the machine clock through a divider by
sixteen. Three flags in the status register report an input capture, an output compare and a
rollover of the counter. A flag is cleared by a fixed access, and only if a status read has shown
it before. Reading the high byte of the capture register holds off captures until its low byte is
read; writing the high byte of the compare register holds off compares until its low byte is
written; and reading a high byte of the counter latches the low byte, so that no pair is torn.
Debugger accesses see the same bytes and advance none of this.
-/

namespace M68HC05

/-- The low byte of a counter pair: its buffer, and whether a high read has latched it. -/
structure LowByte where
  buffer : UInt8
  latched : Bool
  deriving DecidableEq

structure Timer where
  /-- level of the capture pin -/
  captureLevel : Bool
  control : UInt8
  status : UInt8
  /-- status flags that a program read has shown -/
  seen : UInt8
  /-- cycles counted towards the next increment -/
  prescaler : UInt8
  counter : UInt16
  capture : UInt16
  compare : UInt16
  captureInhibited : Bool
  compareInhibited : Bool
  /-- low byte of the counter register -/
  normal : LowByte
  /-- low byte of the alternate counter register -/
  alternate : LowByte
  deriving DecidableEq

namespace Timer

/-! ## Register bits -/

/-- Control bit: interrupt on capture. -/
def captureInterrupt : UInt8 := 0x80

/-- Control bit: interrupt on compare. -/
def compareInterrupt : UInt8 := 0x40

/-- Control bit: interrupt on rollover. -/
def rolloverInterrupt : UInt8 := 0x20

/-- Control bit: capture on the rising edge. -/
def captureEdge : UInt8 := 0x02

/-- Control bit: level put out on a compare. -/
def outputLevel : UInt8 := 0x01

/-- The bits of the control register. -/
def controlMask : UInt8 := 0xE3

/-- Status flag: input captured. -/
def captureFlag : UInt8 := 0x80

/-- Status flag: counter reached the compare register. -/
def compareFlag : UInt8 := 0x40

/-- Status flag: counter rolled over. -/
def rolloverFlag : UInt8 := 0x20

/-- The bits of the status register. -/
def statusMask : UInt8 := 0xE0

/-- Machine cycles to an increment of the counter. -/
def divider : Nat := 16

/-- The counter after a reset. -/
def counterReset : UInt16 := 0xFFFC

/-- A low byte after a reset. -/
def lowByteReset : LowByte := ⟨counterReset.toUInt8, false⟩

/-- A timer before power is applied. -/
def initial : Timer where
  captureLevel := false
  control := 0
  status := 0
  seen := 0
  prescaler := 0
  counter := counterReset
  capture := 0
  compare := 0
  captureInhibited := false
  compareInhibited := false
  normal := lowByteReset
  alternate := lowByteReset

/-- Fills the registers that reset leaves alone. -/
def powerOn (timer : Timer) : Timer :=
  { timer with captureLevel := false, control := 0, status := 0, capture := 0, compare := 0 }

/-- Reset keeps the capture edge, the status flags and the capture and compare registers. -/
def reset (timer : Timer) : Timer :=
  { timer with
    control := timer.control &&& captureEdge
    seen := 0
    prescaler := 0
    counter := counterReset
    captureInhibited := false
    compareInhibited := false
    normal := lowByteReset
    alternate := lowByteReset }

/-- The timer requests an interrupt while a flag is set whose interrupt is enabled. -/
def requests (timer : Timer) : Bool :=
  timer.control &&& timer.status &&& statusMask ≠ 0

/-! ## Control and status -/

/-- Writes the control register. -/
def writeControl (timer : Timer) (data : UInt8) : Outcome Timer Unit :=
  let data := data &&& controlMask
  { value := ()
    next := { timer with control := data }
    report := [.remark (.timerControlWritten data)] }

/-- Reads the status register; a program read shows the flags. -/
def readStatus (timer : Timer) (access : Access) : Outcome Timer UInt8 :=
  match access with
  | .debugger => ⟨timer.status, timer, []⟩
  | .program =>
    let fresh := timer.status &&& ~~~timer.seen
    { value := timer.status
      next := { timer with seen := timer.status }
      report := if fresh ≠ 0 then [.remark (.statusSeen fresh)] else [] }

/-- Clears a flag if a status read has shown it. -/
def clearFlag (timer : Timer) (flag : UInt8) : Timer :=
  if timer.seen &&& flag ≠ 0 then
    { timer with status := timer.status &&& ~~~flag, seen := timer.seen &&& ~~~flag }
  else timer

/-- The remark that goes with `clearFlag`. -/
def clearReport (timer : Timer) (flag : UInt8) (access : FlagAccess) : List Entry :=
  if timer.seen &&& flag ≠ 0 then [.remark (.flagCleared access flag)] else []

/-! ## Capture -/

/-- Reads half of the capture register. -/
def readCapture (timer : Timer) (half : Half) (access : Access) : Outcome Timer UInt8 :=
  match access, half with
  | .debugger, _ => ⟨half.byteOf timer.capture, timer, []⟩
  | .program, .low =>
    { value := half.byteOf timer.capture
      next := { timer.clearFlag captureFlag with captureInhibited := false }
      report := timer.clearReport captureFlag .readCaptureLow
        ++ if timer.captureInhibited then [.remark .captureEnabled] else [] }
  | .program, .high =>
    { value := half.byteOf timer.capture
      next := { timer with captureInhibited := true }
      report := if timer.captureInhibited then [] else [.remark .captureInhibited] }

/-- Changes the level of the capture pin. The selected edge captures the counter. -/
def setCaptureLevel (timer : Timer) (level : Bool) : Outcome Timer Unit :=
  let rising := timer.control &&& captureEdge ≠ 0
  if level ≠ timer.captureLevel ∧ level = rising then
    { value := ()
      next :=
        if timer.captureInhibited then { timer with captureLevel := level }
        else { timer with
          captureLevel := level
          status := timer.status ||| captureFlag
          capture := timer.counter }
      report := [.remark (.inputCaptured timer.counter timer.captureInhibited)] }
  else ⟨(), { timer with captureLevel := level }, []⟩

/-! ## Compare -/

/-- Reads half of the compare register. -/
def readCompare (timer : Timer) (half : Half) (access : Access) : Outcome Timer UInt8 :=
  match access, half with
  | .program, .low =>
    { value := half.byteOf timer.compare
      next := timer.clearFlag compareFlag
      report := timer.clearReport compareFlag .readCompareLow }
  | _, _ => ⟨half.byteOf timer.compare, timer, []⟩

/-- Writes half of the compare register. -/
def writeCompare (timer : Timer) (half : Half) (data : UInt8) (access : Access) :
    Outcome Timer Unit :=
  let compare := half.replaceIn timer.compare data
  match access, half with
  | .debugger, _ => ⟨(), { timer with compare }, []⟩
  | .program, .low =>
    { value := ()
      next := { timer.clearFlag compareFlag with compare, compareInhibited := false }
      report := timer.clearReport compareFlag .writeCompareLow
        ++ if timer.compareInhibited then [.remark .compareEnabled] else [] }
  | .program, .high =>
    { value := ()
      next := { timer with compare, compareInhibited := true }
      report := if timer.compareInhibited then [] else [.remark .compareInhibited] }

/-! ## Counter -/

/-- The low byte of a channel. -/
def lowByte (timer : Timer) : Channel → LowByte
  | .normal => timer.normal
  | .alternate => timer.alternate

/-- Replaces the low byte of a channel. -/
def setLowByte (timer : Timer) (channel : Channel) (low : LowByte) : Timer :=
  match channel with
  | .normal => { timer with normal := low }
  | .alternate => { timer with alternate := low }

/-- Reads the high byte of the counter. The first program read of a pair latches the low byte. -/
def readCounterHigh (timer : Timer) (channel : Channel) (access : Access) :
    Outcome Timer UInt8 :=
  { value := Half.high.byteOf timer.counter
    next :=
      if access = .program ∧ ¬ (timer.lowByte channel).latched then
        timer.setLowByte channel ⟨timer.counter.toUInt8, true⟩
      else timer
    report := [] }

/-- Reads the low byte of the counter as latched. A program read ends the pair, and on the normal
channel it clears the rollover flag. -/
def readCounterLow (timer : Timer) (channel : Channel) (access : Access) :
    Outcome Timer UInt8 :=
  let low := timer.lowByte channel
  match access with
  | .debugger => ⟨low.buffer, timer, []⟩
  | .program =>
    let released := timer.setLowByte channel { low with latched := false }
    { value := low.buffer
      next := match channel with
        | .normal => released.clearFlag rolloverFlag
        | .alternate => released
      report := (if low.latched then [.remark (.counterPairRead channel)] else [])
        ++ match channel with
          | .normal => timer.clearReport rolloverFlag .readCounterLow
          | .alternate => [] }

/-- Reads a byte of the counter by its offset: high and low of the normal channel, then of the
alternate one. -/
def readCounter (timer : Timer) (offset : UInt16) (access : Access) : Outcome Timer UInt8 :=
  let channel : Channel := if offset / 2 % 2 = 0 then .normal else .alternate
  match Half.ofOffset offset with
  | .high => timer.readCounterHigh channel access
  | .low => timer.readCounterLow channel access

/-! ## Time -/

/-- Increments of the counter in the next `cycles` machine cycles. -/
def increments (timer : Timer) (cycles : Nat) : Nat :=
  (cycles + timer.prescaler.toNat % divider) / divider

/-- The counter passes its end in the next `cycles`. -/
def rollsOver (timer : Timer) (cycles : Nat) : Bool :=
  0x10000 ≤ timer.counter.toNat + timer.increments cycles

/-- The counter reaches the compare register in the next `cycles`, counting on without wrapping. -/
def reachesCompare (timer : Timer) (cycles : Nat) : Bool :=
  timer.counter < timer.compare
    && timer.compare.toNat ≤ timer.counter.toNat + timer.increments cycles

/-- Status flags raised in the next `cycles`. -/
def raised (timer : Timer) (cycles : Nat) : UInt8 :=
  (if timer.rollsOver cycles then rolloverFlag else 0)
    ||| if timer.reachesCompare cycles ∧ ¬ timer.compareInhibited then compareFlag else 0

/-- Lets `cycles` machine cycles pass. A compare that is not held off puts out the level that the
control register selects. -/
def advance (timer : Timer) (cycles : Nat) : Outcome Timer Unit where
  value := ()
  next := { timer with
    status := timer.status ||| timer.raised cycles
    prescaler := UInt8.ofNat ((cycles + timer.prescaler.toNat % divider) % divider)
    counter := UInt16.ofNat (timer.counter.toNat + timer.increments cycles) }
  report :=
    (if timer.rollsOver cycles then [.remark .counterRolledOver] else [])
      ++ (if timer.reachesCompare cycles then
          .remark (.compareMatched timer.compareInhibited)
            :: if timer.compareInhibited then []
              else [.signal (.compareOutput (timer.control &&& outputLevel ≠ 0))]
        else [])

/-! ## Stored values

Inspection and restored states set registers without their side effects, within their bits. -/

def setControl (timer : Timer) (byte : UInt8) : Timer :=
  { timer with control := byte &&& controlMask }

def setStatus (timer : Timer) (byte : UInt8) : Timer :=
  { timer with status := byte &&& statusMask }

def setSeen (timer : Timer) (byte : UInt8) : Timer :=
  { timer with seen := byte &&& statusMask }

def setPrescaler (timer : Timer) (byte : UInt8) : Timer :=
  { timer with prescaler := byte % 16 }

/-- Every register within its bits. -/
def masked (timer : Timer) : Timer :=
  { timer with
    control := timer.control &&& controlMask
    status := timer.status &&& statusMask
    seen := timer.seen &&& statusMask
    prescaler := timer.prescaler % 16 }

end Timer
end M68HC05
