import M68HC05.Text.Numeral
import M68HC05.Variant

/-!
What a device lets be seen besides its state. A `Signal` is an exchange with the board over the
pins; a `Remark` is a line of running commentary with a severity and a topic; a trace is a list
of entries of both kinds in the order in which they happened. An operation of a peripheral is an
`Outcome`: its answer, the peripheral afterwards, and the entries it gives rise to.
-/

namespace M68HC05

/-- The two interrupt lines of the processor. -/
inductive InterruptLine where
  | external
  | timer
  deriving DecidableEq

namespace InterruptLine

/-- Bit number of a line in the pending mask. -/
def number : InterruptLine → Nat
  | .external => 0
  | .timer => 1

/-- The bit of a line in the pending mask. -/
def bit : InterruptLine → UInt16
  | .external => 0x0001
  | .timer => 0x0002

/-- The vector a line is served through. -/
def vector : InterruptLine → UInt16
  | .external => externalVector
  | .timer => timerVector

/-- Name in reports. -/
def label : InterruptLine → String
  | .external => "IRQ"
  | .timer => "timer"

end InterruptLine

/-- The two register pairs through which the counter is read. -/
inductive Channel where
  | normal
  | alternate
  deriving DecidableEq

/-- A port, 0 to 3 for A to D. -/
abbrev PortIndex := Fin 4

/-- The letter of a port. -/
def portLetter (port : PortIndex) : String :=
  match port with
  | 0 => "A"
  | 1 => "B"
  | 2 => "C"
  | 3 => "D"

/-! ## Signals -/

/-- An exchange with the board. -/
inductive Signal where
  /-- the pins of a port are sampled; `mask` marks those that are inputs -/
  | sample (port : PortIndex) (mask : UInt8)
  /-- a port drives `value`, of which the bits of `direction` are outputs -/
  | drive (port : PortIndex) (value direction : UInt8)
  /-- the compare output takes a level -/
  | compareOutput (level : Bool)
  /-- an interrupt of a line is served -/
  | acknowledge (line : InterruptLine)
  deriving DecidableEq

/-! ## Remarks -/

/-- Severity of a remark. -/
inductive Severity where
  | trace
  | debug
  | info
  | warn
  | error
  deriving DecidableEq

/-- Subject of a remark. -/
inductive Topic where
  | general
  | interrupts
  | ports
  | timer
  | watchdog
  deriving DecidableEq

/-- The tag under which remarks on a topic are filed. -/
def Topic.tag : Topic → String
  | .general => ""
  | .interrupts => "hc05::int"
  | .ports => "hc05::ioport"
  | .timer => "hc05::timer"
  | .watchdog => "hc05::cop"

/-- The accesses that can clear a timer flag. -/
inductive FlagAccess where
  | readCaptureLow
  | readCompareLow
  | writeCompareLow
  | readCounterLow
  deriving DecidableEq

/-- Name of a flag-clearing access in reports. -/
def FlagAccess.label : FlagAccess → String
  | .readCaptureLow => "read ICRL"
  | .readCompareLow => "read OCRL"
  | .writeCompareLow => "write OCRL"
  | .readCounterLow => "read TRL"

/-- A line of commentary, by its cause. -/
inductive Remark where
  | deviceReset (variant : Variant)
  | stateLoaded (path : String)
  | illegalOpcode (opcode : UInt8) (address : UInt16)
  | missingDirection (port : Nat)
  | watchHit (index : Nat) (address : UInt16) (made : WatchKind)
  | lineAsserted
  | interruptTaken (line : InterruptLine)
  | portSampled (port : PortIndex) (input mask previous : UInt8)
  | latchWritten (port : PortIndex) (data direction previous : UInt8)
  | directionWritten (port : PortIndex) (data previous : UInt8)
  | timerControlWritten (data : UInt8)
  | statusSeen (flags : UInt8)
  | flagCleared (access : FlagAccess) (flag : UInt8)
  | captureInhibited
  | captureEnabled
  | compareInhibited
  | compareEnabled
  | counterPairRead (channel : Channel)
  | inputCaptured (counter : UInt16) (inhibited : Bool)
  | counterRolledOver
  | compareMatched (inhibited : Bool)
  | keyWritten (data : UInt8) (completes : Bool)
  | timeoutFlagCleared
  | watchdogControlWritten (data : UInt8) (enables : Bool)
  | watchdogClearWritten (data : UInt8)
  | fixedWatchdogSwitched (enabled : Bool)
  | programmableTimeout
  | fixedTimeout
  deriving DecidableEq

namespace Remark

/-- Register traffic is the finest detail; resets, interrupts and watch hits stand above it. -/
def severity : Remark → Severity
  | deviceReset _ => .debug
  | stateLoaded _ => .info
  | illegalOpcode .. => .warn
  | missingDirection _ => .warn
  | watchHit .. => .debug
  | interruptTaken _ => .debug
  | fixedWatchdogSwitched _ => .debug
  | programmableTimeout => .debug
  | fixedTimeout => .debug
  | _ => .trace

/-- The topic a remark is filed under. -/
def topic : Remark → Topic
  | deviceReset _ => .general
  | stateLoaded _ => .general
  | illegalOpcode .. => .general
  | missingDirection _ => .general
  | watchHit .. => .general
  | lineAsserted => .interrupts
  | interruptTaken _ => .interrupts
  | portSampled .. => .ports
  | latchWritten .. => .ports
  | directionWritten .. => .ports
  | timerControlWritten _ => .timer
  | statusSeen _ => .timer
  | flagCleared .. => .timer
  | captureInhibited => .timer
  | captureEnabled => .timer
  | compareInhibited => .timer
  | compareEnabled => .timer
  | counterPairRead _ => .timer
  | inputCaptured .. => .timer
  | counterRolledOver => .timer
  | compareMatched _ => .timer
  | keyWritten .. => .watchdog
  | timeoutFlagCleared => .watchdog
  | watchdogControlWritten .. => .watchdog
  | watchdogClearWritten _ => .watchdog
  | fixedWatchdogSwitched _ => .watchdog
  | programmableTimeout => .watchdog
  | fixedTimeout => .watchdog

open Text in
/-- The wording of a remark. -/
def message : Remark → String
  | deviceReset variant => variant.name ++ " reset"
  | stateLoaded path => "state loaded from " ++ path
  | illegalOpcode opcode address =>
    "illegal opcode " ++ hexByte opcode ++ " at " ++ hexWord address
  | missingDirection port => "no DDR on port " ++ toString port
  | watchHit index address made =>
    "watchpoint " ++ toString index ++ " at " ++ hexWord address ++ " (" ++ made.tag ++ ")"
  | lineAsserted => "/IRQ asserted"
  | interruptTaken line => "take " ++ line.label ++ " interrupt"
  | portSampled port input mask previous =>
    "read PORT" ++ portLetter port ++ ": new input = " ++ hexByte input ++ " & " ++ hexByte mask
      ++ " (was " ++ hexByte previous ++ ")"
  | latchWritten port data direction previous =>
    "write PORT" ++ portLetter port ++ " latch: " ++ hexByte data ++ " & " ++ hexByte direction
      ++ " (was " ++ hexByte previous ++ ")"
  | directionWritten port data previous =>
    "write DDR" ++ portLetter port ++ ": " ++ hexByte data ++ " (was " ++ hexByte previous ++ ")"
  | timerControlWritten data =>
    "write TCR: ICIE=" ++ bitDigit data 7 ++ " OCIE=" ++ bitDigit data 6 ++ " TOIE="
      ++ bitDigit data 5 ++ " IEDG=" ++ bitDigit data 1 ++ " OLVL=" ++ bitDigit data 0
  | statusSeen flags =>
    "read TSR: seen" ++ (if flags.toNat.testBit 7 then " ICF" else "")
      ++ (if flags.toNat.testBit 6 then " OCF" else "")
      ++ (if flags.toNat.testBit 5 then " TOF" else "")
  | flagCleared access flag => access.label ++ ", clear flag " ++ hexByte flag
  | captureInhibited => "read ICRH, inhibit capture"
  | captureEnabled => "read ICRL, enable capture"
  | compareInhibited => "write OCRH, inhibit compare"
  | compareEnabled => "write OCRL, enable compare"
  | counterPairRead channel =>
    "read " ++ (if channel = .alternate then "A" else "") ++ "TRL, read sequence complete"
  | inputCaptured counter inhibited =>
    "input capture " ++ hexWord counter ++ (if inhibited then " [inhibited]" else "")
  | counterRolledOver => "timer rollover"
  | compareMatched inhibited =>
    "output compare match" ++ (if inhibited then " [inhibited]" else "")
  | keyWritten data completes =>
    "write COPRST=" ++ hexByte data ++ (if completes then ", clear" else "")
  | timeoutFlagCleared => "read COPCR, clear COPF"
  | watchdogControlWritten data enables =>
    "write COPCR: CME=" ++ bitDigit data 3 ++ " PCOPE=" ++ bitDigit data 2 ++ " ("
      ++ (if enables then "set" else "ignored") ++ ") CM=" ++ toString (data % 4).toNat
  | watchdogClearWritten data => "write COPR: COPC=" ++ bitDigit data 0
  | fixedWatchdogSwitched enabled => "NCOP " ++ (if enabled then "enabled" else "disabled")
  | programmableTimeout => "PCOP reset"
  | fixedTimeout => "NCOP reset"

end Remark

/-! ## Traces -/

/-- One entry of a trace. -/
inductive Entry where
  | signal (signal : Signal)
  | remark (remark : Remark)
  deriving DecidableEq

/-- The effect of one operation of a peripheral: the answer, the peripheral afterwards, and the
entries the operation gives rise to, first one first. Whether the board is wired for a signal is
not decided here. -/
structure Outcome (σ α : Type) where
  value : α
  next : σ
  report : List Entry

end M68HC05
