import M68HC05.Bus

/-!
The processor registers. The condition codes are a byte of five flags. The stack pointer moves
inside the top 64 bytes of page zero: only its six low bits count, and it wraps from 0xC0 down to
0xFF and from 0xFF up to 0xC0.
-/

namespace M68HC05

/-- Whether the processor runs. -/
inductive RunState where
  | running
  /-- waits for an interrupt while the timer and watchdogs run on -/
  | wait
  /-- waits for an interrupt with the oscillator stopped -/
  | stop
  deriving DecidableEq

/-- Name in reports. -/
def RunState.label : RunState → String
  | .running => "Running"
  | .wait => "Wait"
  | .stop => "Stop"

/-- A condition code. -/
inductive Flag where
  | halfCarry
  | interruptMask
  | negative
  | zero
  | carry
  deriving DecidableEq

namespace Flag

/-- The bit of a flag in the condition code register. -/
def bit : Flag → UInt8
  | .halfCarry => 0x10
  | .interruptMask => 0x08
  | .negative => 0x04
  | .zero => 0x02
  | .carry => 0x01

/-- Letter in reports. -/
def letter : Flag → String
  | .halfCarry => "H"
  | .interruptMask => "I"
  | .negative => "N"
  | .zero => "Z"
  | .carry => "C"

/-- All flags, highest bit first. -/
def all : List Flag := [.halfCarry, .interruptMask, .negative, .zero, .carry]

/-- The bits of all flags. -/
def mask : UInt8 := 0x1F

end Flag

structure Cpu where
  pc : UInt16
  a : UInt8
  x : UInt8
  cc : UInt8
  sp : UInt16
  state : RunState
  /-- machine cycles since the device was made -/
  tick : UInt64
  deriving DecidableEq

namespace Cpu

/-- The bits of the stack pointer that count. -/
def stackMask : UInt16 := 0x003F

/-- Lowest address of the stack. -/
def stackFloor : UInt16 := 0x00C0

/-- The stack pointer of an empty stack. -/
def stackReset : UInt16 := 0x00FF

/-- The stack address with the same low bits. -/
def stackAddress (pointer : UInt16) : UInt16 :=
  stackFloor + pointer % 64

/-- Registers of a processor that has not been started. -/
def initial : Cpu where
  pc := 0
  a := 0
  x := 0
  cc := Flag.interruptMask.bit
  sp := stackReset
  state := .running
  tick := 0

/-- Reset clears the accumulator and index register, masks interrupts and empties the stack; the
program counter is loaded by the device. -/
def reset (cpu : Cpu) : Cpu :=
  { cpu with a := 0, x := 0, cc := Flag.interruptMask.bit, sp := stackReset, state := .running }

/-- A flag is set. -/
def flag (cpu : Cpu) (flag : Flag) : Bool :=
  cpu.cc &&& flag.bit ≠ 0

/-- Sets or clears a flag. -/
def setFlag (cpu : Cpu) (flag : Flag) (value : Bool) : Cpu :=
  { cpu with cc := if value then cpu.cc ||| flag.bit else cpu.cc &&& ~~~flag.bit }

/-- Adds to the cycle counter. -/
def addTicks (cpu : Cpu) (cycles : Nat) : Cpu :=
  { cpu with tick := cpu.tick + UInt64.ofNat cycles }

/-- The address of the next byte in program order. -/
def nextPc (cpu : Cpu) : UInt16 :=
  busAddress (cpu.pc + 1)

/-- The address at a signed byte's distance. -/
def relative (pc : UInt16) (offset : UInt8) : UInt16 :=
  busAddress (pc + if offset < 0x80 then offset.toUInt16 else offset.toUInt16 + 0xFF00)

end Cpu
end M68HC05
