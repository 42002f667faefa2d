import M68HC05.Trace

/-!
The two watchdogs. The programmable one counts while it is fitted, is armed by a bit of its
control register that software can set and not clear, and is served by writing 0x55 and then 0xAA
to its key register. The non-programmable one counts while a mask option enables it and is served
by writing a byte with a clear lowest bit. Either one running out asks for a reset of the device.
-/

namespace M68HC05

/-- Which watchdogs a part has. -/
structure WatchdogKinds where
  programmable : Bool
  fixed : Bool
  deriving DecidableEq

/-- The watchdogs of a part. -/
def Variant.watchdogs (variant : Variant) : WatchdogKinds :=
  ⟨variant.hasProgrammableWatchdog, variant.hasFixedWatchdog⟩

/-- The registers of both watchdogs. -/
structure Watchdog where
  /-- cycles counted by the programmable watchdog -/
  programmableCount : UInt32
  /-- cycles counted by the non-programmable watchdog -/
  fixedCount : UInt32
  /-- last byte written to the key register -/
  key : UInt8
  control : UInt8
  /-- the mask option enables the non-programmable watchdog -/
  fixedEnabled : Bool
  deriving DecidableEq

namespace Watchdog

/-! ## Register bits -/

/-- Control bit: the programmable watchdog has run out. -/
def timeoutFlag : UInt8 := 0x10

/-- Control bit: clock monitor, stored and without effect. -/
def clockMonitor : UInt8 := 0x08

/-- Control bit: the programmable watchdog is armed. -/
def armed : UInt8 := 0x04

/-- Control bits: the period. -/
def period : UInt8 := 0x03

/-- The bits of the control register. -/
def controlMask : UInt8 := 0x1F

/-- Values of the programmable counter. -/
def programmableRange : Nat := 0x200000

/-- Values of the non-programmable counter. -/
def fixedRange : Nat := 0x20000

/-- Registers before power is applied. -/
def initial : Watchdog where
  programmableCount := 0
  fixedCount := 0
  key := 0
  control := 0
  fixedEnabled := false

/-- Fills the registers that reset leaves alone. -/
def powerOn (watchdog : Watchdog) : Watchdog :=
  { watchdog with programmableCount := 0, key := 0, control := 0, fixedEnabled := false }

/-- Reset keeps the timeout flag, so that software can tell why it was started. -/
def reset (watchdog : Watchdog) : Watchdog :=
  { watchdog with fixedCount := 0, control := watchdog.control &&& timeoutFlag }

/-- Cycles in which the programmable watchdog has to be served: 2^15, 2^17, 2^19 or 2^21. -/
def timeout (watchdog : Watchdog) : Nat :=
  1 <<< (15 + 2 * (watchdog.control &&& period).toNat)

/-! ## Register accesses -/

/-- Writes the key register. 0xAA right after 0x55 clears the fifteen low bits of the count. -/
def writeKey (watchdog : Watchdog) (data : UInt8) : Outcome Watchdog Unit :=
  let completes := data = 0xAA && watchdog.key = 0x55
  { value := ()
    next := { watchdog with
      key := data
      programmableCount :=
        if completes then watchdog.programmableCount &&& 0x1F8000
        else watchdog.programmableCount }
    report := [.remark (.keyWritten data completes)] }

/-- Reads the control register; a program read clears the timeout flag. -/
def readControl (watchdog : Watchdog) (access : Access) : Outcome Watchdog UInt8 :=
  match access with
  | .debugger => ⟨watchdog.control, watchdog, []⟩
  | .program =>
    { value := watchdog.control
      next := { watchdog with control := watchdog.control &&& ~~~timeoutFlag }
      report :=
        if watchdog.control &&& timeoutFlag ≠ 0 then [.remark .timeoutFlagCleared] else [] }

/-- Writes the control register. The armed bit can be set and not cleared, and the timeout flag is
not written. -/
def writeControl (watchdog : Watchdog) (data : UInt8) : Outcome Watchdog Unit where
  value := ()
  next := { watchdog with control := (watchdog.control &&& 0xF4) ||| (data &&& 0x0F) }
  report :=
    [.remark (.watchdogControlWritten data
      (watchdog.control &&& armed = 0 && data &&& armed ≠ 0))]

/-- Writes the clear register of the non-programmable watchdog. -/
def writeClear (watchdog : Watchdog) (data : UInt8) : Outcome Watchdog Unit where
  value := ()
  next := if data % 2 = 0 then { watchdog with fixedCount := 0 } else watchdog
  report := [.remark (.watchdogClearWritten data)]

/-- Switches the non-programmable watchdog. -/
def switchFixed (watchdog : Watchdog) (enabled : Bool) : Outcome Watchdog Unit where
  value := ()
  next := { watchdog with fixedEnabled := enabled }
  report := [.remark (.fixedWatchdogSwitched enabled)]

/-! ## Time -/

/-- The programmable watchdog runs out in the next `cycles`. -/
def programmableRunsOut (watchdog : Watchdog) (kinds : WatchdogKinds) (cycles : Nat) : Bool :=
  kinds.programmable && watchdog.control &&& armed ≠ 0
    && watchdog.timeout ≤ watchdog.programmableCount.toNat % watchdog.timeout + cycles

/-- The non-programmable watchdog runs out in the next `cycles`. -/
def fixedRunsOut (watchdog : Watchdog) (kinds : WatchdogKinds) (cycles : Nat) : Bool :=
  kinds.fixed && watchdog.fixedEnabled
    && fixedRange ≤ watchdog.fixedCount.toNat + cycles

/-- Lets `cycles` machine cycles pass; the answer says whether a watchdog asks for a reset. -/
def advance (watchdog : Watchdog) (kinds : WatchdogKinds) (cycles : Nat) :
    Outcome Watchdog Bool where
  value := watchdog.programmableRunsOut kinds cycles || watchdog.fixedRunsOut kinds cycles
  next := { watchdog with
    control :=
      if watchdog.programmableRunsOut kinds cycles then watchdog.control ||| timeoutFlag
      else watchdog.control
    programmableCount :=
      if kinds.programmable then
        UInt32.ofNat ((watchdog.programmableCount.toNat + cycles) % programmableRange)
      else watchdog.programmableCount
    fixedCount :=
      if kinds.fixed && watchdog.fixedEnabled then
        UInt32.ofNat ((watchdog.fixedCount.toNat + cycles) % fixedRange)
      else watchdog.fixedCount }
  report :=
    (if watchdog.programmableRunsOut kinds cycles then [.remark .programmableTimeout] else [])
      ++ if watchdog.fixedRunsOut kinds cycles then [.remark .fixedTimeout] else []

/-! ## Stored values

Inspection and restored states set registers without their side effects, within their bits. -/

def setProgrammableCount (watchdog : Watchdog) (count : UInt32) : Watchdog :=
  { watchdog with programmableCount := count % 0x200000 }

def setFixedCount (watchdog : Watchdog) (count : UInt32) : Watchdog :=
  { watchdog with fixedCount := count % 0x20000 }

def setKey (watchdog : Watchdog) (byte : UInt8) : Watchdog :=
  { watchdog with key := byte }

def setControl (watchdog : Watchdog) (byte : UInt8) : Watchdog :=
  { watchdog with control := byte &&& controlMask }

/-- Every register within its bits. -/
def masked (watchdog : Watchdog) : Watchdog :=
  { watchdog with
    programmableCount := watchdog.programmableCount % 0x200000
    fixedCount := watchdog.fixedCount % 0x20000
    control := watchdog.control &&& controlMask }

end Watchdog
end M68HC05
