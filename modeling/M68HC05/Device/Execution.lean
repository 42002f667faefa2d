import M68HC05.Cpu.Arithmetic
import M68HC05.Device.Access
import M68HC05.Instruction.Decode

/-!
The effect of each instruction on a device. An instruction runs after its opcode has been fetched;
it fetches its own operand bytes, so the program counter has passed all of them when it ends.
Cycles are charged by the caller.
-/

namespace M68HC05.Device

/-! ## Operands -/

/-- Reads the byte at the program counter and moves on. -/
def fetch : Action UInt8 := do
  let byte ← read (← get).cpu.pc .program
  changeCpu fun cpu => { cpu with pc := cpu.nextPc }
  return byte

/-- Fetches a word, high byte first. -/
def fetchWord : Action UInt16 := do
  let high ← fetch
  let low ← fetch
  return joinBytes high low

/-- The address of an operand. An immediate operand is addressed in place. -/
def operandAddress (operand : Operand) : Action UInt16 := do
  let x := (← get).cpu.x.toUInt16
  match operand with
  | .immediate =>
    let address := (← get).cpu.pc
    changeCpu fun cpu => { cpu with pc := cpu.nextPc }
    return address
  | .direct => return (← fetch).toUInt16
  | .extended => return busAddress (← fetchWord)
  | .indexedWord => return busAddress ((← fetchWord) + x)
  | .indexedByte => return (← fetch).toUInt16 + x
  | .indexed => return x

/-! ## Stack -/

/-- Pushes a byte. -/
def push (byte : UInt8) : Action Unit := do
  write (← get).cpu.sp byte .program
  changeCpu fun cpu => { cpu with sp := Cpu.stackAddress (cpu.sp - 1) }

/-- Pulls a byte. -/
def pull : Action UInt8 := do
  changeCpu fun cpu => { cpu with sp := Cpu.stackAddress (cpu.sp + 1) }
  read (← get).cpu.sp .program

/-- Pushes the program counter, low byte first. -/
def pushPc : Action Unit := do
  let pc := (← get).cpu.pc
  push pc.toUInt8
  push (Half.high.byteOf pc)

/-- Pulls the program counter. -/
def pullPc : Action Unit := do
  let high ← pull
  let low ← pull
  changeCpu fun cpu => { cpu with pc := busAddress (joinBytes high low) }

/-- Pushes the registers that an interrupt saves. The unused bits of the condition codes are
stacked as ones. -/
def pushFrame : Action Unit := do
  pushPc
  push (← get).cpu.x
  push (← get).cpu.a
  push ((← get).cpu.cc ||| ~~~Flag.mask)

/-- Masks interrupts. -/
def maskInterrupts : Action Unit :=
  changeCpu (·.setFlag .interruptMask true)

/-- Goes on at the address that a vector holds. -/
def jumpThrough (vector : UInt16) : Action Unit := do
  let target ← readWord vector .program
  changeCpu fun cpu => { cpu with pc := busAddress target }

/-! ## Instructions -/

/-- A branch condition holds. -/
def holds (device : Device) (condition : Condition) : Bool :=
  let cpu := device.cpu
  match condition with
  | .always => true
  | .never => false
  | .higher => !cpu.flag .carry && !cpu.flag .zero
  | .lowerOrSame => cpu.flag .carry || cpu.flag .zero
  | .carryClear => !cpu.flag .carry
  | .carrySet => cpu.flag .carry
  | .notEqual => !cpu.flag .zero
  | .equal => cpu.flag .zero
  | .halfCarryClear => !cpu.flag .halfCarry
  | .halfCarrySet => cpu.flag .halfCarry
  | .plus => !cpu.flag .negative
  | .minus => cpu.flag .negative
  | .maskClear => !cpu.flag .interruptMask
  | .maskSet => cpu.flag .interruptMask
  | .lineLow => device.lineAsserted
  | .lineHigh => !device.lineAsserted

/-- Goes on at a signed byte's distance if `taken`. -/
def branchIf (taken : Bool) (offset : UInt8) : Action Unit :=
  if taken then changeCpu fun cpu => { cpu with pc := Cpu.relative cpu.pc offset } else pure ()

/-- Branches on a bit of a byte in page zero, which it copies into the carry. -/
def branchOnBit (bit : UInt8) (wanted : Bool) : Action Unit := do
  let address := (← fetch).toUInt16
  let offset ← fetch
  let byte ← read address .program
  let isSet : Bool := byte &&& (1 <<< bit) ≠ 0
  changeCpu (·.setFlag .carry isSet)
  branchIf (isSet = wanted) offset

/-- Replaces a byte in page zero by a function of it. -/
def updateDirect (change : UInt8 → UInt8) : Action Unit := do
  let address := (← fetch).toUInt16
  let byte ← read address .program
  write address (change byte) .program

/-- A read-modify-write operation on a byte in memory. A test does not write. -/
def modifyMemory (op : ModifyOp) (address : UInt16) : Action Unit := do
  let byte ← read address .program
  let result ← modifyGet fun device =>
    let (result, cpu) := device.cpu.modify op byte
    (result, { device with cpu })
  if op ≠ .tst then
    write address result .program

/-- A read-modify-write operation. -/
def modifyTarget (op : ModifyOp) (target : Target) : Action Unit := do
  match target with
  | .accumulator =>
    changeCpu fun cpu =>
      let (result, cpu) := cpu.modify op cpu.a
      { cpu with a := result }
  | .index =>
    changeCpu fun cpu =>
      let (result, cpu) := cpu.modify op cpu.x
      { cpu with x := result }
  | .direct => modifyMemory op (← fetch).toUInt16
  | .indexedByte => modifyMemory op ((← fetch).toUInt16 + (← get).cpu.x.toUInt16)
  | .indexed => modifyMemory op (← get).cpu.x.toUInt16

/-- Stores a register and sets its sign and zero flags. -/
def storeRegister (operand : Operand) (register : Cpu → UInt8) : Action Unit := do
  let address ← operandAddress operand
  let byte := register (← get).cpu
  write address byte .program
  changeCpu (·.setSignZero byte)

/-- Stops the processor until an interrupt, which it allows. -/
def idle (state : RunState) : Action Unit :=
  changeCpu fun cpu => { cpu.setFlag .interruptMask false with state }

/-- Runs an instruction whose opcode has been fetched. -/
def perform (instruction : Instruction) : Action Unit := do
  match instruction with
  | .brset bit => branchOnBit bit true
  | .brclr bit => branchOnBit bit false
  | .bset bit => updateDirect (· ||| (1 <<< bit))
  | .bclr bit => updateDirect (· &&& ~~~(1 <<< bit))
  | .branch condition =>
    let offset ← fetch
    branchIf ((← get).holds condition) offset
  | .bsr =>
    let offset ← fetch
    pushPc
    branchIf true offset
  | .modify op target => modifyTarget op target
  | .mul => changeCpu (·.multiply)
  | .register op operand =>
    let address ← operandAddress operand
    let byte ← read address .program
    changeCpu (·.operate op byte)
  | .sta operand => storeRegister operand (·.a)
  | .stx operand => storeRegister operand (·.x)
  | .jmp operand =>
    let address ← operandAddress operand
    changeCpu fun cpu => { cpu with pc := address }
  | .jsr operand =>
    let address ← operandAddress operand
    pushPc
    changeCpu fun cpu => { cpu with pc := address }
  | .rti =>
    let cc ← pull
    changeCpu fun cpu => { cpu with cc := cc &&& Flag.mask }
    let a ← pull
    changeCpu fun cpu => { cpu with a }
    let x ← pull
    changeCpu fun cpu => { cpu with x }
    pullPc
  | .rts => pullPc
  | .swi =>
    pushFrame
    maskInterrupts
    jumpThrough softwareVector
  | .stop => idle .stop
  | .wait => idle .wait
  | .tax => changeCpu fun cpu => { cpu with x := cpu.a }
  | .txa => changeCpu fun cpu => { cpu with a := cpu.x }
  | .clc => changeCpu (·.setFlag .carry false)
  | .sec => changeCpu (·.setFlag .carry true)
  | .cli => changeCpu (·.setFlag .interruptMask false)
  | .sei => maskInterrupts
  | .rsp => changeCpu fun cpu => { cpu with sp := Cpu.stackReset }
  | .nop => pure ()
  | .illegal opcode => remark (.illegalOpcode opcode (busAddress ((← get).cpu.pc - 1)))

end M68HC05.Device
