import M68HC05.Proofs.Bits
import M68HC05.Proofs.Operation

/-!
The processor registers stay in range: the program counter inside the address space, the stack
pointer inside the stack, and the condition codes within the flags. Each place where an instruction
sets one of them brings the value in range by itself (`Cpu.InRange.goto`, `Cpu.InRange.stacked`,
`Cpu.InRange.setFlag`); what is left is the walk over the instructions, with one case for each.
-/

namespace M68HC05

open M68HC05.Action Device

/-! ## Registers -/

namespace Cpu

/-- The registers that have fewer values than their words. -/
structure InRange (cpu : Cpu) : Prop where
  pc : cpu.pc.toNat < addressSpace
  floor : 0x00C0 ≤ cpu.sp.toNat
  top : cpu.sp.toNat ≤ 0x00FF
  cc : HasOnly Flag.mask cpu.cc

variable {cpu : Cpu}

theorem inRange_initial : initial.InRange :=
  ⟨by decide, by decide, by decide, by decide⟩

theorem toNat_stackAddress (pointer : UInt16) :
    (stackAddress pointer).toNat = 0x00C0 + pointer.toNat % 64 := by
  unfold stackAddress stackFloor
  rw [UInt16.toNat_add, UInt16.toNat_mod]
  have sixtyFour : (64 : UInt16).toNat = 64 := rfl
  have floor : (0x00C0 : UInt16).toNat = 0x00C0 := rfl
  rw [sixtyFour, floor]
  omega

/-- Going on at an address of the bus. -/
theorem InRange.goto (range : cpu.InRange) {address : UInt16}
    (inside : address.toNat < addressSpace) : InRange { cpu with pc := address } :=
  ⟨inside, range.floor, range.top, range.cc⟩

/-- Moving the stack pointer. -/
theorem InRange.stacked (range : cpu.InRange) (pointer : UInt16) :
    InRange { cpu with sp := stackAddress pointer } := by
  refine ⟨range.pc, ?_, ?_, range.cc⟩
  · rw [toNat_stackAddress]
    exact Nat.le_add_right _ _
  · rw [toNat_stackAddress]
    omega

theorem Flag.hasOnly_bit (flag : Flag) : HasOnly Flag.mask flag.bit := by
  cases flag with
  | halfCarry => decide
  | interruptMask => decide
  | negative => decide
  | zero => decide
  | carry => decide

theorem InRange.setFlag (range : cpu.InRange) (flag : Flag) (value : Bool) :
    (cpu.setFlag flag value).InRange := by
  refine ⟨range.pc, range.floor, range.top, ?_⟩
  unfold Cpu.setFlag
  cases value with
  | true => exact range.cc.or8 (Flag.hasOnly_bit flag)
  | false => exact range.cc.and_left _

/-- The accumulator, the index register, the run state and the clock may take any value. -/
theorem InRange.of_same {other : Cpu} (range : cpu.InRange) (pc : other.pc = cpu.pc)
    (sp : other.sp = cpu.sp) (cc : other.cc = cpu.cc) : other.InRange := by
  refine ⟨?_, ?_, ?_, ?_⟩
  · rw [pc]
    exact range.pc
  · rw [sp]
    exact range.floor
  · rw [sp]
    exact range.top
  · rw [cc]
    exact range.cc

theorem InRange.withA (range : cpu.InRange) (a : UInt8) : InRange { cpu with a } :=
  range.of_same rfl rfl rfl

theorem InRange.withX (range : cpu.InRange) (x : UInt8) : InRange { cpu with x } :=
  range.of_same rfl rfl rfl

theorem InRange.setSignZero (range : cpu.InRange) (result : UInt8) :
    (cpu.setSignZero result).InRange :=
  (range.setFlag .negative _).setFlag .zero _

theorem InRange.setSubFlags (range : cpu.InRange) (a m result : UInt8) :
    (cpu.setSubFlags a m result).InRange :=
  (range.setFlag .carry _).setSignZero result

theorem InRange.setAddFlags (range : cpu.InRange) (a m result : UInt8) :
    (cpu.setAddFlags a m result).InRange :=
  ((range.setFlag .halfCarry _).setFlag .carry _).setSignZero result

theorem InRange.loadA (range : cpu.InRange) (result : UInt8) : (cpu.loadA result).InRange :=
  (range.withA result).setSignZero result

theorem InRange.operate (range : cpu.InRange) (op : RegisterOp) (m : UInt8) :
    (cpu.operate op m).InRange := by
  unfold Cpu.operate
  cases op with
  | sub => exact (range.setSubFlags _ _ _).withA _
  | cmp => exact range.setSubFlags _ _ _
  | sbc => exact (range.setSubFlags _ _ _).withA _
  | cpx => exact range.setSubFlags _ _ _
  | and => exact range.loadA _
  | bit => exact range.setSignZero _
  | lda => exact range.loadA _
  | eor => exact range.loadA _
  | adc => exact (range.setAddFlags _ _ _).withA _
  | ora => exact range.loadA _
  | add => exact (range.setAddFlags _ _ _).withA _
  | ldx => exact (range.withX m).setSignZero m

theorem InRange.modify (range : cpu.InRange) (op : ModifyOp) (m : UInt8) :
    (cpu.modify op m).2.InRange :=
  (range.setFlag .carry _).setSignZero _

theorem InRange.multiply (range : cpu.InRange) : cpu.multiply.InRange := by
  unfold Cpu.multiply
  refine InRange.setFlag (InRange.setFlag ?_ .halfCarry false) .carry false
  exact range.of_same rfl rfl rfl

theorem InRange.emptyStack (range : cpu.InRange) : InRange { cpu with sp := stackReset } :=
  ⟨range.pc, inRange_initial.floor, inRange_initial.top, range.cc⟩

theorem InRange.reset (range : cpu.InRange) : cpu.reset.InRange :=
  ⟨range.pc, inRange_initial.floor, inRange_initial.top, inRange_initial.cc⟩

end Cpu

namespace Device

/-- The processor registers of a device are in range. -/
def CpuInRange (device : Device) : Prop :=
  device.cpu.InRange

namespace CpuInRange

/-! ## What leaves the registers alone -/

theorem of_same {α : Type} {action : Action α} (same : Moves (Same Device.cpu) action) :
    Moves (Kept CpuInRange) action := by
  intro device range
  unfold CpuInRange
  rw [same device]
  exact range

theorem read (address : UInt16) (access : Access) :
    Moves (Kept CpuInRange) (Device.read address access) :=
  keeps_of_frame (frame_read address access) fun frame => frame.cpu.InRange

theorem write (address : UInt16) (byte : UInt8) (access : Access) :
    Moves (Kept CpuInRange) (Device.write address byte access) :=
  keeps_of_frame (frame_write address byte access) fun frame => frame.cpu.InRange

theorem remark (text : Remark) : Moves (Kept CpuInRange) (Device.remark text) :=
  of_same fun _ => rfl

/-! ## Operands and stack -/

theorem flow : Flow (Kept CpuInRange) :=
  Kept.flow CpuInRange

theorem changeCpu {change : Cpu → Cpu} (stays : ∀ cpu, cpu.InRange → (change cpu).InRange) :
    Moves (Kept CpuInRange) (Device.changeCpu change) :=
  fun _ range => stays _ range

theorem skipByte :
    Moves (Kept CpuInRange) (Device.changeCpu fun cpu => { cpu with pc := cpu.nextPc }) :=
  changeCpu fun _ range => range.goto (busAddress_lt _)

theorem fetch : Moves (Kept CpuInRange) fetch := by
  unfold Device.fetch
  refine Moves.get fun device => ?_
  exact flow.bind (read _ .program) fun _ => flow.bind skipByte fun _ => flow.pure _

theorem fetchWord : Moves (Kept CpuInRange) fetchWord := by
  unfold Device.fetchWord
  exact flow.bind fetch fun _ => flow.bind fetch fun _ => flow.pure _

/-- The address of an operand is found in range. -/
theorem operandAddress (operand : Operand) : Moves (Kept CpuInRange) (operandAddress operand) := by
  unfold Device.operandAddress
  refine Moves.get fun device => ?_
  cases operand with
  | immediate =>
    refine Moves.get fun device => ?_
    exact flow.bind skipByte fun _ => flow.pure _
  | direct => exact flow.bind fetch fun _ => flow.pure _
  | extended => exact flow.bind fetchWord fun _ => flow.pure _
  | indexedWord => exact flow.bind fetchWord fun _ => flow.pure _
  | indexedByte => exact flow.bind fetch fun _ => flow.pure _
  | indexed => exact flow.pure _

/-- The address of an operand lies in the address space: it is cut to it, or is too small to leave
it, or is where the program counter was. -/
theorem operandAddress_lt (operand : Operand) {device : Device} (range : device.CpuInRange) :
    (Device.operandAddress operand device).1.toNat < addressSpace := by
  have small (byte : UInt8) : byte.toUInt16.toNat < 256 := by
    rw [UInt8.toNat_toUInt16]
    exact byte.toNat_lt
  unfold Device.operandAddress addressSpace
  cases operand with
  | immediate => exact range.pc
  | direct => exact Nat.lt_trans (small _) (by decide)
  | extended => exact busAddress_lt _
  | indexedWord => exact busAddress_lt _
  | indexedByte =>
    change ((Device.fetch device).1.toUInt16 + device.cpu.x.toUInt16).toNat < 0x2000
    have offset := small (Device.fetch device).1
    have index := small device.cpu.x
    rw [UInt16.toNat_add]
    omega
  | indexed => exact Nat.lt_trans (small _) (by decide)

theorem push (byte : UInt8) : Moves (Kept CpuInRange) (push byte) := by
  unfold Device.push
  refine Moves.get fun device => flow.bind (write _ byte .program) fun _ => ?_
  exact changeCpu fun _ range => range.stacked _

theorem pull : Moves (Kept CpuInRange) pull := by
  unfold Device.pull
  refine flow.bind (changeCpu fun _ range => range.stacked _) fun _ => ?_
  exact Moves.get fun device => read _ .program

theorem pushPc : Moves (Kept CpuInRange) pushPc :=
  flow.pushPc push

theorem goto (address : UInt16) : Moves (Kept CpuInRange)
    (Device.changeCpu fun cpu => { cpu with pc := busAddress address }) :=
  changeCpu fun _ range => range.goto (busAddress_lt address)

theorem pullPc : Moves (Kept CpuInRange) pullPc := by
  unfold Device.pullPc
  exact flow.bind pull fun _ => flow.bind pull fun _ => goto _

theorem pushFrame : Moves (Kept CpuInRange) pushFrame :=
  flow.pushFrame push

theorem setFlag (flag : Flag) (value : Bool) :
    Moves (Kept CpuInRange) (Device.changeCpu (·.setFlag flag value)) :=
  changeCpu fun _ range => range.setFlag flag value

theorem jumpThrough (vector : UInt16) : Moves (Kept CpuInRange) (jumpThrough vector) := by
  unfold Device.jumpThrough Device.readWord
  refine flow.bind (flow.bind (read _ .program) fun _ => ?_) fun _ => goto _
  exact flow.bind (read _ .program) fun _ => flow.pure _

/-! ## Instructions -/

theorem branchIf (taken : Bool) (offset : UInt8) :
    Moves (Kept CpuInRange) (branchIf taken offset) := by
  unfold Device.branchIf
  refine .ite (fun _ => ?_) fun _ => flow.pure ()
  exact changeCpu fun _ range => range.goto (busAddress_lt _)

theorem branchOnBit (bit : UInt8) (wanted : Bool) :
    Moves (Kept CpuInRange) (branchOnBit bit wanted) := by
  unfold Device.branchOnBit
  refine flow.bind fetch fun _ => flow.bind fetch fun offset => ?_
  refine flow.bind (read _ .program) fun _ => flow.bind (setFlag .carry _) fun _ => ?_
  exact branchIf _ offset

theorem updateDirect (change : UInt8 → UInt8) : Moves (Kept CpuInRange) (updateDirect change) := by
  unfold Device.updateDirect
  exact flow.bind fetch fun _ => flow.bind (read _ .program) fun _ => write _ _ .program

theorem modifyMemory (op : ModifyOp) (address : UInt16) :
    Moves (Kept CpuInRange) (modifyMemory op address) := by
  unfold Device.modifyMemory
  refine flow.bind (read _ .program) fun byte => flow.bind ?_ fun result => ?_
  · exact fun _ range => Cpu.InRange.modify range op byte
  · exact .ite (fun _ => write _ _ .program) fun _ => flow.pure ()

theorem modifyTarget (op : ModifyOp) (target : Target) :
    Moves (Kept CpuInRange) (modifyTarget op target) := by
  unfold Device.modifyTarget
  cases target with
  | direct => exact flow.bind fetch fun _ => modifyMemory op _
  | accumulator => exact changeCpu fun _ range => (range.modify op _).withA _
  | index => exact changeCpu fun _ range => (range.modify op _).withX _
  | indexedByte =>
    exact flow.bind fetch fun _ => Moves.get fun device => modifyMemory op _
  | indexed => exact Moves.get fun device => modifyMemory op _

theorem storeRegister (operand : Operand) (register : Cpu → UInt8) :
    Moves (Kept CpuInRange) (storeRegister operand register) := by
  unfold Device.storeRegister
  refine flow.bind (operandAddress operand) fun _ => Moves.get fun device => ?_
  refine flow.bind (write _ _ .program) fun _ => ?_
  exact changeCpu fun _ range => range.setSignZero _

theorem idle (state : RunState) : Moves (Kept CpuInRange) (idle state) :=
  changeCpu fun _ range => (range.setFlag .interruptMask false).of_same rfl rfl rfl

/-- A jump goes to the address of its operand. -/
theorem jump (operand : Operand) {rest : Action Unit} (stays : Moves (Kept CpuInRange) rest) :
    Moves (Kept CpuInRange) (do
      let address ← Device.operandAddress operand
      rest
      Device.changeCpu fun cpu => { cpu with pc := address }) := by
  intro device range
  have inside := operandAddress_lt operand range
  have after := flow.bind (operandAddress operand) (fun _ => stays) device range
  exact Cpu.InRange.goto after inside

/-- Every instruction keeps the registers in range. -/
theorem perform (instruction : Instruction) : Moves (Kept CpuInRange) (perform instruction) := by
  unfold Device.perform
  cases instruction with
  | brset bit => exact branchOnBit bit true
  | brclr bit => exact branchOnBit bit false
  | bset bit => exact updateDirect _
  | bclr bit => exact updateDirect _
  | branch condition =>
    exact flow.bind fetch fun offset => Moves.get fun device => branchIf _ offset
  | bsr => exact flow.bind fetch fun offset => flow.bind pushPc fun _ => branchIf true offset
  | modify op target => exact modifyTarget op target
  | mul => exact changeCpu fun _ range => range.multiply
  | register op operand =>
    refine flow.bind (operandAddress operand) fun _ => flow.bind (read _ .program) fun byte => ?_
    exact changeCpu fun _ range => range.operate op byte
  | sta operand => exact storeRegister operand _
  | stx operand => exact storeRegister operand _
  | jmp operand => exact jump operand (flow.pure ())
  | jsr operand => exact jump operand pushPc
  | rti =>
    refine flow.bind pull fun cc => flow.bind (changeCpu fun cpu range => ?_) fun _ => ?_
    · exact ⟨range.pc, range.floor, range.top, .cut cc Flag.mask⟩
    refine flow.bind pull fun a => flow.bind (changeCpu fun _ range => range.withA a) fun _ => ?_
    refine flow.bind pull fun x => flow.bind (changeCpu fun _ range => range.withX x) fun _ => ?_
    exact pullPc
  | rts => exact pullPc
  | swi =>
    refine flow.bind pushFrame fun _ => flow.bind (setFlag .interruptMask true) fun _ => ?_
    exact jumpThrough softwareVector
  | stop => exact idle .stop
  | wait => exact idle .wait
  | tax => exact changeCpu fun _ range => range.withX _
  | txa => exact changeCpu fun _ range => range.withA _
  | clc => exact setFlag .carry false
  | sec => exact setFlag .carry true
  | cli => exact setFlag .interruptMask false
  | sei => exact setFlag .interruptMask true
  | rsp => exact changeCpu fun _ range => range.emptyStack
  | nop => exact flow.pure ()
  | illegal opcode => exact Moves.get fun device => remark _

/-! ## Operations -/

theorem charge (cycles : Nat) : Moves (Kept CpuInRange) (charge cycles) := by
  unfold Device.charge
  refine flow.bind (changeCpu fun _ range => range.of_same rfl rfl rfl) fun _ => ?_
  refine flow.bind (of_same fun _ => rfl) fun _ => flow.bind (of_same fun _ => rfl) fun _ => ?_
  refine Moves.get fun _ => flow.bind (of_same fun _ => rfl) fun _ => ?_
  exact .ite (fun _ => of_same fun _ => rfl) fun _ => flow.pure ()

theorem latchMaskOption : Moves (Kept CpuInRange) latchMaskOption := by
  unfold Device.latchMaskOption
  exact Moves.get fun _ => .ite (fun _ => of_same fun _ => rfl) fun _ => flow.pure ()

theorem reset : Moves (Kept CpuInRange) reset := by
  unfold Device.reset
  refine Moves.get fun _ => flow.bind (remark _) fun _ => flow.bind ?_ fun _ => ?_
  · exact fun _ range => Cpu.InRange.reset range
  · refine flow.bind latchMaskOption fun _ => ?_
    exact flow.bind (of_same fun _ => rfl) fun _ => jumpThrough resetVector

theorem takeInterrupt (line : InterruptLine) : Moves (Kept CpuInRange) (takeInterrupt line) := by
  have rest : Moves (Kept CpuInRange) (do
      Device.remark (.interruptTaken line)
      signal (.acknowledge line)
      Device.jumpThrough line.vector
      Device.changeCpu fun cpu => { cpu with state := .running }
      Device.charge interruptCycles) := by
    refine flow.bind (remark _) fun _ => flow.bind (of_same fun _ => rfl) fun _ => ?_
    refine flow.bind (jumpThrough _) fun _ => flow.bind (changeCpu fun _ range => ?_) fun _ => ?_
    · exact range.of_same rfl rfl rfl
    · exact charge interruptCycles
  unfold Device.takeInterrupt
  refine flow.bind pushFrame fun _ => flow.bind (setFlag .interruptMask true) fun _ => ?_
  exact .ite (fun _ => flow.bind (of_same fun _ => rfl) fun _ => rest) fun _ => rest

theorem step : Moves (Kept CpuInRange) step := by
  have served : Moves (Kept CpuInRange) serveInterrupt := by
    unfold Device.serveInterrupt
    refine Moves.get fun device => ?_
    cases device.interruptDue? with
    | none => exact flow.pure 0
    | some line => exact flow.bind (takeInterrupt line) fun _ => flow.pure _
  have turned : Moves (Kept CpuInRange) runProcessor := by
    unfold Device.runProcessor Device.runInstruction
    refine Moves.get fun device => ?_
    cases device.cpu.state with
    | running =>
      refine flow.bind fetch fun opcode => flow.bind (perform _) fun _ => ?_
      exact flow.bind (charge _) fun _ => flow.pure _
    | wait => exact flow.bind (charge idleCycles) fun _ => flow.pure _
    | stop =>
      refine flow.bind (changeCpu fun _ range => ?_) fun _ => flow.pure _
      exact range.of_same rfl rfl rfl
  unfold Device.step
  refine flow.bind served fun _ => flow.bind turned fun _ => Moves.get fun device => ?_
  exact .ite (fun _ => flow.bind reset fun _ => flow.pure _) fun _ => flow.pure _

theorem setRegister (register : Register) (value : UInt32) :
    Moves (Kept CpuInRange) (setRegister register value) := by
  unfold Device.setRegister
  cases register with
  | pc =>
    refine changeCpu fun _ range => range.goto ?_
    rw [UInt32.toNat_toUInt16, UInt32.toNat_and]
    have small := @Nat.and_le_right value.toNat (Register.mask .pc).toNat
    have mask : (Register.mask .pc).toNat = 0x1FFF := rfl
    unfold addressSpace
    omega
  | sp => exact changeCpu fun _ range => range.stacked _
  | a => exact changeCpu fun _ range => range.withA _
  | x => exact changeCpu fun _ range => range.withX _
  | cc =>
    refine changeCpu fun _ range => ⟨range.pc, range.floor, range.top, ?_⟩
    rw [UInt32.toUInt8_and]
    exact .cut value.toUInt8 Flag.mask
  | direction n =>
    exact .ite (fun _ => of_same fun _ => rfl) fun _ => remark _
  | _ => exact of_same fun _ => rfl

theorem setInputLine (line : InputLine) (asserted : Bool) :
    Moves (Kept CpuInRange) (setInputLine line asserted) := by
  unfold Device.setInputLine
  cases line with
  | interrupt =>
    unfold Device.setInterruptLine
    refine Moves.get fun _ => .ite (fun _ => ?_) fun _ => of_same fun _ => rfl
    exact flow.bind (remark _) fun _ => of_same fun _ => rfl
  | capture => exact of_same fun _ => rfl
  | reset => exact .ite (fun _ => reset) fun _ => flow.pure ()

/-- Every operation keeps the processor registers in range. -/
theorem operationFlow : OperationFlow (Kept CpuInRange) where
  toFlow := flow
  stop _ _ := id
  grant _ _ := id
  start := flow.bind (of_same fun _ => rfl) fun _ => reset
  reset := reset
  setInputLine := setInputLine
  step := step
  perform := perform
  read := read
  write := write
  setRegister := setRegister
  takeHit := of_same fun _ => rfl

end CpuInRange
end Device
end M68HC05
