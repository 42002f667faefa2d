import M68HC05.Cpu
import M68HC05.Text.Numeral

/-!
Registers by name. Every piece of architectural and peripheral state has a register with a display
name and a mask of the bits it has. Indexed registers take any index: latches and inputs repeat
every four, counter buffers every two, and a direction register past port C does not exist.
-/

namespace M68HC05

/-- A named register. -/
inductive Register where
  | pc | sp | a | x | cc
  /-- output latch of a port -/
  | latch (n : Nat)
  /-- last sampled pins of a port -/
  | input (n : Nat)
  /-- direction register of a port; port D has none -/
  | direction (n : Nat)
  | timerControl
  | timerStatus
  /-- status flags that a program read has shown -/
  | statusSeen
  | captureInhibit
  | compareInhibit
  /-- low byte buffer of the counter (0) or alternate counter (1) -/
  | counterBuffer (n : Nat)
  /-- whether a high read has latched that buffer -/
  | counterLatched (n : Nat)
  | captureLevel
  | capture
  | compare
  | prescaler
  | counter
  | watchdogKey
  | watchdogControl
  | programmableCount
  | fixedEnable
  | fixedCount
  deriving DecidableEq

namespace Register

/-- Ports with a direction register. -/
def directionCount : Nat := 3

/-- The name of one of a row of registers. -/
def nameOf (names : Array String) (n : Nat) (other : String) : String :=
  names[n]?.getD other

/-- Display name. -/
def name : Register → String
  | pc => "PC"
  | sp => "SP"
  | a => "A"
  | x => "X"
  | cc => "CC"
  | latch n => nameOf #["LATCHA", "LATCHB", "LATCHC"] (n % 4) "LATCHD"
  | input n => nameOf #["INPUTA", "INPUTB", "INPUTC"] (n % 4) "INPUTD"
  | direction n => nameOf #["DDRA", "DDRB", "DDRC"] n "DDR?"
  | timerControl => "TCR"
  | timerStatus => "TSR"
  | statusSeen => "TSRSEEN"
  | captureInhibit => "ICRINH"
  | compareInhibit => "OCRINH"
  | counterBuffer n => if n % 2 = 0 then "TRLBUF" else "ATRLBUF"
  | counterLatched n => if n % 2 = 0 then "TRLLAT" else "ATRLLAT"
  | captureLevel => "TCAP"
  | capture => "ICR"
  | compare => "OCR"
  | prescaler => "PS"
  | counter => "TR"
  | watchdogKey => "COPRST"
  | watchdogControl => "COPCR"
  | programmableCount => "PCOP"
  | fixedEnable => "NCOPE"
  | fixedCount => "NCOP"

/-- The bits a register has. -/
def mask : Register → UInt32
  | pc => 0x1FFF
  | sp => 0xFF
  | a => 0xFF
  | x => 0xFF
  | cc => 0x1F
  | latch _ => 0xFF
  | input _ => 0xFF
  | direction _ => 0xFF
  | timerControl => 0xE3
  | timerStatus => 0xE0
  | statusSeen => 0xE0
  | captureInhibit => 0x01
  | compareInhibit => 0x01
  | counterBuffer _ => 0xFF
  | counterLatched _ => 0x01
  | captureLevel => 0x01
  | capture => 0xFFFF
  | compare => 0xFFFF
  | prescaler => 0x0F
  | counter => 0xFFFF
  | watchdogKey => 0xFF
  | watchdogControl => 0x1F
  | programmableCount => 0x1FFFFF
  | fixedEnable => 0x01
  | fixedCount => 0x1FFFF

/-- Registers of every part in display order. -/
def shared : List Register :=
  [pc, sp, a, x, cc,
   latch 0, latch 1, latch 2, latch 3,
   input 0, input 1, input 2, input 3,
   direction 0, direction 1, direction 2,
   timerControl, timerStatus, capture, compare, prescaler, counter,
   statusSeen, captureInhibit, compareInhibit,
   counterBuffer 0, counterBuffer 1, counterLatched 0, counterLatched 1,
   captureLevel]

/-- Registers of the programmable watchdog in display order. -/
def ofProgrammableWatchdog : List Register :=
  [watchdogKey, watchdogControl, programmableCount]

/-- Registers of the non-programmable watchdog in display order. -/
def ofFixedWatchdog : List Register :=
  [fixedEnable, fixedCount]

/-- The register with a name, in either case of the letters A to Z. -/
def ofName? (name : String) : Option Register :=
  (shared ++ ofProgrammableWatchdog ++ ofFixedWatchdog).find? fun register =>
    register.name.map Char.toLower = name.map Char.toLower

/-- Hexadecimal digits that a value needs. -/
def digits (register : Register) : Nat :=
  if register.mask > 0xFFFF then 6 else if register.mask > 0xFF then 4 else 2

end Register
end M68HC05
