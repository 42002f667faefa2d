import M68HC05.Device.Run
import M68HC05.Proofs.Bus

/-!
Bus traffic of instructions. `Instruction.accesses` lists the program accesses of an instruction in
the order in which they are made, each with the byte that it transfers: operand bytes, data, the two
halves of a read-modify-write operation, stack and vectors.

An instruction reaches the rest of the device through these accesses and through the external
interrupt line, and otherwise works on the processor registers. So a relation between devices with
the same registers that goes on with each access goes on with every instruction, and the two devices
make the same accesses (`Recorder.perform`). The relation may depend on the accesses made so far,
which makes it an account of them; one that does not is a lockstep.
-/

namespace M68HC05

open M68HC05.Action Device

/-! ## Accesses -/

/-- A program access as the bus carries it. -/
structure BusAccess where
  address : UInt16
  made : WatchKind
  byte : UInt8
  deriving DecidableEq

/-- The access of writing a byte. -/
def BusAccess.write (address : UInt16) (byte : UInt8) : BusAccess :=
  ⟨busAddress address, .write, byte⟩

namespace Device

/-- The access of reading a byte. -/
def readAccess (address : UInt16) (device : Device) : BusAccess :=
  ⟨busAddress address, .read, (read address .program device).1⟩

/-- The accesses of reading a word. -/
def wordAccesses (address : UInt16) (device : Device) : List BusAccess :=
  [device.readAccess address, (read address .program device).2.readAccess (address + 1)]

/-- The accesses of fetching a byte. -/
def fetchAccesses (device : Device) : List BusAccess :=
  [device.readAccess device.cpu.pc]

/-- The accesses of fetching a word. -/
def fetchWordAccesses (device : Device) : List BusAccess :=
  device.fetchAccesses ++ (fetch device).2.fetchAccesses

/-- The accesses of finding an operand. -/
def operandAccesses (operand : Operand) (device : Device) : List BusAccess :=
  match operand with
  | .immediate => []
  | .direct => device.fetchAccesses
  | .extended => device.fetchWordAccesses
  | .indexedWord => device.fetchWordAccesses
  | .indexedByte => device.fetchAccesses
  | .indexed => []

/-- The accesses of pushing bytes from a stack pointer down. -/
def pushAccesses (sp : UInt16) : List UInt8 → List BusAccess
  | [] => []
  | byte :: bytes => .write sp byte :: pushAccesses (Cpu.stackAddress (sp - 1)) bytes

/-- The bytes of a return address, in the order in which they are pushed. -/
def returnBytes (pc : UInt16) : List UInt8 :=
  [pc.toUInt8, Half.high.byteOf pc]

/-- The bytes that an interrupt saves, in the order in which they are pushed. -/
def frameBytes (cpu : Cpu) : List UInt8 :=
  returnBytes cpu.pc ++ [cpu.x, cpu.a, cpu.cc ||| ~~~Flag.mask]

/-- The device when a byte is about to be pulled. -/
def raised (device : Device) : Device :=
  { device with cpu := { device.cpu with sp := Cpu.stackAddress (device.cpu.sp + 1) } }

/-- The accesses of pulling a byte. -/
def pullAccesses (device : Device) : List BusAccess :=
  [device.raised.readAccess device.raised.cpu.sp]

/-- The accesses of pulling the program counter. -/
def pullPcAccesses (device : Device) : List BusAccess :=
  device.pullAccesses ++ (pull device).2.pullAccesses

/-- Pulls a byte into a register. -/
def pullInto (set : UInt8 → Cpu → Cpu) : Action Unit := do
  let byte ← pull
  changeCpu (set byte)

/-- The accesses of testing a bit of a byte in page zero. -/
def testAccesses (device : Device) : List BusAccess :=
  let first := fetch device
  let second := fetch first.2
  device.fetchAccesses ++ first.2.fetchAccesses ++ [second.2.readAccess first.1.toUInt16]

/-- The accesses of replacing a byte in page zero by a function of it. -/
def updateAccesses (change : UInt8 → UInt8) (device : Device) : List BusAccess :=
  let fetched := fetch device
  let address := fetched.1.toUInt16
  device.fetchAccesses ++ [fetched.2.readAccess address,
    .write address (change (read address .program fetched.2).1)]

/-- The accesses of a read-modify-write operation on a byte in memory. -/
def modifyAccesses (op : ModifyOp) (address : UInt16) (device : Device) : List BusAccess :=
  device.readAccess address ::
    if op = .tst then []
    else [.write address (device.cpu.modified op (read address .program device).1)]

end Device

/-- The program accesses of an instruction on a device that has fetched its opcode. -/
def Instruction.accesses (instruction : Instruction) (device : Device) : List BusAccess :=
  match instruction with
  | brset _ => device.testAccesses
  | brclr _ => device.testAccesses
  | bset bit => device.updateAccesses (· ||| (1 <<< bit))
  | bclr bit => device.updateAccesses (· &&& ~~~(1 <<< bit))
  | branch _ => device.fetchAccesses
  | bsr =>
    let fetched := (fetch device).2
    device.fetchAccesses ++ pushAccesses fetched.cpu.sp (returnBytes fetched.cpu.pc)
  | modify op target =>
    let fetched := fetch device
    match target with
    | .direct => device.fetchAccesses ++ fetched.2.modifyAccesses op fetched.1.toUInt16
    | .accumulator => []
    | .index => []
    | .indexedByte =>
      device.fetchAccesses ++
        fetched.2.modifyAccesses op (fetched.1.toUInt16 + fetched.2.cpu.x.toUInt16)
    | .indexed => device.modifyAccesses op device.cpu.x.toUInt16
  | register _ operand =>
    let addressed := operandAddress operand device
    device.operandAccesses operand ++ [addressed.2.readAccess addressed.1]
  | sta operand =>
    let addressed := operandAddress operand device
    device.operandAccesses operand ++ [.write addressed.1 addressed.2.cpu.a]
  | stx operand =>
    let addressed := operandAddress operand device
    device.operandAccesses operand ++ [.write addressed.1 addressed.2.cpu.x]
  | jmp operand => device.operandAccesses operand
  | jsr operand =>
    let addressed := (operandAddress operand device).2
    device.operandAccesses operand ++
      pushAccesses addressed.cpu.sp (returnBytes addressed.cpu.pc)
  | rti =>
    let first := (pullInto (fun cc cpu => { cpu with cc := cc &&& Flag.mask }) device).2
    let second := (pullInto (fun a cpu => { cpu with a }) first).2
    let third := (pullInto (fun x cpu => { cpu with x }) second).2
    device.pullAccesses ++ (first.pullAccesses ++ (second.pullAccesses ++ third.pullPcAccesses))
  | rts => device.pullPcAccesses
  | swi =>
    let masked := (maskInterrupts (pushFrame device).2).2
    pushAccesses device.cpu.sp (frameBytes device.cpu) ++ masked.wordAccesses softwareVector
  | _ => []

/-! ## Actions and their accesses -/

namespace Action

variable {α β : Type} {R : List BusAccess → Device → Device → Prop}
  {log : Device → List BusAccess}

/-- Runs from related devices answer alike, make the same accesses, which are those of the log, and
end in devices that are related with these accesses added. -/
def Records (R : List BusAccess → Device → Device → Prop) (action : Action α)
    (log : Device → List BusAccess) : Prop :=
  ∀ ⦃past : List BusAccess⦄ ⦃d e : Device⦄, R past d e →
    (action d).1 = (action e).1 ∧ log d = log e ∧ R (past ++ log d) (action d).2 (action e).2

/-- Runs that make no accesses. -/
theorem Records.none {action : Action α}
    (keeps : ∀ {past d e}, R past d e →
      (action d).1 = (action e).1 ∧ R past (action d).2 (action e).2) :
    Records R action fun _ => [] := by
  intro past d e related
  obtain ⟨answer, after⟩ := keeps related
  rw [List.append_nil]
  exact ⟨answer, rfl, after⟩

theorem Records.pure (value : α) : Records R (pure value) fun _ => [] :=
  .none fun related => ⟨rfl, related⟩

theorem Records.bind {action : Action α} {next : α → Action β}
    {more : α → Device → List BusAccess} (first : Records R action log)
    (second : ∀ value, Records R (next value) (more value)) :
    Records R (action >>= next) fun device =>
      log device ++ more (action device).1 (action device).2 := by
  intro past d e related
  obtain ⟨answer, same, after⟩ := first related
  obtain ⟨last, alike, ends⟩ := second (action e).1 after
  rw [List.append_assoc] at ends
  simp only [bind_apply, answer]
  refine ⟨last, ?_, ends⟩
  rw [same, alike]

/-- The same accesses, listed in another way. -/
theorem Records.relist {action : Action α} {other : Device → List BusAccess}
    (records : Records R action log) (same : ∀ device, log device = other device) :
    Records R action other := by
  rw [← funext same]
  exact records

/-- What makes no accesses may follow. -/
theorem Records.quietly {action : Action α} {next : α → Action β} (first : Records R action log)
    (second : ∀ value, Records R (next value) fun _ => []) : Records R (action >>= next) log :=
  (first.bind second).relist fun device => List.append_nil (log device)

/-- Reading the device: what follows may depend only on what related devices share. -/
theorem Records.get {next : Device → Action β} (more : Device → Device → List BusAccess)
    (goes : ∀ {past d e}, R past d e → next d = next e)
    (lists : ∀ {past d e}, R past d e → more d = more e)
    (each : ∀ device, Records R (next device) (more device)) :
    Records R (MonadState.get >>= next) fun device => more device device := by
  intro past d e related
  have step := each d related
  simp only [bind_apply, get_apply, ← goes related, ← lists related]
  exact step

theorem Records.ite {condition : Prop} [Decidable condition] {yes no : Action α}
    {yesLog noLog : Device → List BusAccess} (whenTrue : Records R yes yesLog)
    (whenFalse : Records R no noLog) :
    Records R (if condition then yes else no)
      fun device => if condition then yesLog device else noLog device := by
  split
  · exact whenTrue
  · exact whenFalse

end Action

/-! ## Instructions that do not write -/

/-- The instruction may write to the bus. -/
def Instruction.stores : Instruction → Bool
  | bset _ => true
  | bclr _ => true
  | bsr => true
  | modify _ _ => true
  | sta _ => true
  | stx _ => true
  | jsr _ => true
  | swi => true
  | _ => false

/-- No operation of a register counts cycles. -/
theorem Cpu.tick_operate (cpu : Cpu) (op : RegisterOp) (m : UInt8) :
    (cpu.operate op m).tick = cpu.tick := by
  unfold Cpu.operate
  cases op with
  | _ => rfl

/-- A relation between devices with the same processor registers that goes on with what an
instruction does to a device, apart from its writes. -/
structure ReadRecorder (R : List BusAccess → Device → Device → Prop) : Prop where
  cpu {past : List BusAccess} {d e : Device} : R past d e → d.cpu = e.cpu
  lineAsserted {past : List BusAccess} {d e : Device} : R past d e →
    d.lineAsserted = e.lineAsserted
  /-- instructions leave the cycle counter to the clock -/
  changeCpu (change : Cpu → Cpu) (timeless : ∀ cpu, (change cpu).tick = cpu.tick) :
    Records R (Device.changeCpu change) fun _ => []
  /-- what an instruction remarks by itself is not about the timeout flag -/
  remark (text : Remark) (other : text ≠ .timeoutFlagCleared) :
    Records R (Device.remark text) fun _ => []
  read (address : UInt16) :
    Records R (Device.read address .program) fun device => [device.readAccess address]

namespace ReadRecorder

variable {R : List BusAccess → Device → Device → Prop} {α : Type}

/-- What follows a look at the device may depend on its registers. -/
theorem readCpu (recorder : ReadRecorder R) {next : Device → Action α}
    (more : Device → Device → List BusAccess)
    (goes : ∀ {d e : Device}, d.cpu = e.cpu → next d = next e)
    (lists : ∀ {d e : Device}, d.cpu = e.cpu → more d = more e)
    (each : ∀ device, Records R (next device) (more device)) :
    Records R (get >>= next) fun device => more device device :=
  Records.get more (fun related => goes (recorder.cpu related))
    (fun related => lists (recorder.cpu related)) each

/-- Changing the registers by a function that also answers. -/
theorem changeCpuAnswering (recorder : ReadRecorder R) (change : Cpu → α × Cpu)
    (timeless : ∀ cpu, (change cpu).2.tick = cpu.tick) :
    Records R (modifyGet fun device =>
      ((change device.cpu).1, { device with cpu := (change device.cpu).2 })) fun _ => [] := by
  intro past d e related
  have registers := recorder.cpu related
  obtain ⟨-, -, after⟩ := recorder.changeCpu (fun cpu => (change cpu).2) timeless related
  refine ⟨?_, rfl, after⟩
  simp only [modifyGet_apply, registers]

theorem fetch (recorder : ReadRecorder R) : Records R fetch fetchAccesses := by
  unfold Device.fetch
  refine recorder.readCpu (fun looked device => [device.readAccess looked.cpu.pc])
    (fun same => by rw [same]) (fun same => by rw [same]) fun device => ?_
  refine (recorder.read device.cpu.pc).quietly fun byte => ?_
  exact (recorder.changeCpu _ fun _ => by rfl).quietly fun _ => .pure byte

theorem fetchWord (recorder : ReadRecorder R) : Records R fetchWord fetchWordAccesses := by
  unfold Device.fetchWord
  exact recorder.fetch.bind fun high => recorder.fetch.quietly fun low => .pure (joinBytes high low)

theorem operandAddress (recorder : ReadRecorder R) (operand : Operand) :
    Records R (operandAddress operand) (operandAccesses operand) := by
  unfold Device.operandAddress
  refine recorder.readCpu (fun _ => operandAccesses operand) (fun same => by rw [same])
    (fun _ => rfl) fun device => ?_
  cases operand with
  | immediate =>
    refine recorder.readCpu (fun _ _ => []) (fun same => by rw [same]) (fun _ => rfl) fun _ => ?_
    exact (recorder.changeCpu _ fun _ => by rfl).quietly fun _ => .pure _
  | direct => exact recorder.fetch.quietly fun _ => .pure _
  | extended => exact recorder.fetchWord.quietly fun _ => .pure _
  | indexedWord => exact recorder.fetchWord.quietly fun _ => .pure _
  | indexedByte => exact recorder.fetch.quietly fun _ => .pure _
  | indexed => exact .pure _

theorem pull (recorder : ReadRecorder R) : Records R pull pullAccesses := by
  have raises := recorder.changeCpu
    (fun cpu => { cpu with sp := Cpu.stackAddress (cpu.sp + 1) }) fun _ => rfl
  have reads := recorder.readCpu (fun looked device => [device.readAccess looked.cpu.sp])
    (fun same => by rw [same]) (fun same => by rw [same]) fun device => recorder.read device.cpu.sp
  exact raises.bind fun _ => reads

theorem pullPc (recorder : ReadRecorder R) : Records R pullPc pullPcAccesses := by
  unfold Device.pullPc
  refine recorder.pull.bind fun high => recorder.pull.quietly fun low => ?_
  exact recorder.changeCpu _ fun _ => by rfl

theorem pullInto (recorder : ReadRecorder R) (set : UInt8 → Cpu → Cpu)
    (timeless : ∀ byte cpu, (set byte cpu).tick = cpu.tick) :
    Records R (pullInto set) pullAccesses :=
  recorder.pull.quietly fun byte => recorder.changeCpu (set byte) (timeless byte)

theorem readWord (recorder : ReadRecorder R) (address : UInt16) :
    Records R (readWord address .program) (wordAccesses address) := by
  unfold Device.readWord
  exact (recorder.read address).bind fun high =>
    (recorder.read (address + 1)).quietly fun low => .pure (joinBytes high low)

theorem jumpThrough (recorder : ReadRecorder R) (vector : UInt16) :
    Records R (jumpThrough vector) (wordAccesses vector) := by
  unfold Device.jumpThrough
  exact (recorder.readWord vector).quietly fun _ => recorder.changeCpu _ fun _ => by rfl

theorem maskInterrupts (recorder : ReadRecorder R) : Records R maskInterrupts fun _ => [] :=
  recorder.changeCpu _ fun _ => by rfl

theorem branchIf (recorder : ReadRecorder R) (taken : Bool) (offset : UInt8) :
    Records R (branchIf taken offset) fun _ => [] := by
  unfold Device.branchIf
  split
  · exact recorder.changeCpu _ fun _ => by rfl
  · exact .pure ()

theorem branchOnBit (recorder : ReadRecorder R) (bit : UInt8) (wanted : Bool) :
    Records R (branchOnBit bit wanted) testAccesses := by
  unfold Device.branchOnBit
  have whole := recorder.fetch.bind fun address => recorder.fetch.bind fun offset =>
    (recorder.read address.toUInt16).quietly fun byte =>
      (recorder.changeCpu (·.setFlag .carry (decide (byte &&& (1 <<< bit) ≠ 0))) fun _ => rfl).quietly
        fun _ => recorder.branchIf (decide (byte &&& (1 <<< bit) ≠ 0) = wanted) offset
  exact whole.relist fun device => (List.append_assoc ..).symm

theorem idle (recorder : ReadRecorder R) (state : RunState) :
    Records R (idle state) fun _ => [] :=
  recorder.changeCpu _ fun _ => by rfl

/-- Every instruction that does not write makes the accesses that are listed for it. -/
theorem perform (recorder : ReadRecorder R) {instruction : Instruction}
    (quiet : instruction.stores = false) :
    Records R (perform instruction) instruction.accesses := by
  unfold Device.perform
  cases instruction with
  | brset bit => exact recorder.branchOnBit bit true
  | brclr bit => exact recorder.branchOnBit bit false
  | branch condition =>
    refine recorder.fetch.quietly fun offset => ?_
    refine Records.get (fun _ _ => []) (fun related => ?_) (fun _ => rfl) fun _ =>
      recorder.branchIf _ offset
    simp only [holds, recorder.cpu related, recorder.lineAsserted related]
  | mul => exact recorder.changeCpu _ fun _ => by rfl
  | register op operand =>
    have whole := (recorder.operandAddress operand).bind fun address =>
      (recorder.read address).quietly fun byte =>
        recorder.changeCpu (·.operate op byte) (Cpu.tick_operate · op byte)
    exact whole
  | jmp operand =>
    exact (recorder.operandAddress operand).quietly fun _ => recorder.changeCpu _ fun _ => by rfl
  | rti =>
    have cc := recorder.pullInto (fun cc cpu => { cpu with cc := cc &&& Flag.mask }) fun _ _ => rfl
    have a := recorder.pullInto (fun a cpu => { cpu with a }) fun _ _ => rfl
    have x := recorder.pullInto (fun x cpu => { cpu with x }) fun _ _ => rfl
    have whole := cc.bind fun _ => a.bind fun _ => x.bind fun _ => recorder.pullPc
    simp only [Device.pullInto, bind_assoc] at whole
    exact whole
  | rts => exact recorder.pullPc
  | stop => exact recorder.idle .stop
  | wait => exact recorder.idle .wait
  | tax => exact recorder.changeCpu _ fun _ => by rfl
  | txa => exact recorder.changeCpu _ fun _ => by rfl
  | clc => exact recorder.changeCpu _ fun _ => by rfl
  | sec => exact recorder.changeCpu _ fun _ => by rfl
  | cli => exact recorder.changeCpu _ fun _ => by rfl
  | sei => exact recorder.maskInterrupts
  | rsp => exact recorder.changeCpu _ fun _ => by rfl
  | nop => exact .pure ()
  | illegal opcode =>
    exact recorder.readCpu (fun _ _ => []) (fun same => by rw [same]) (fun _ => rfl) fun _ =>
      recorder.remark _ Remark.noConfusion
  | _ => cases quiet

end ReadRecorder

/-! ## Stack -/

/-- The registers after a push. -/
def Cpu.pushed (cpu : Cpu) : Cpu :=
  { cpu with sp := Cpu.stackAddress (cpu.sp - 1) }

namespace Device

theorem push_cpu (byte : UInt8) (device : Device) :
    (push byte device).2.cpu = device.cpu.pushed :=
  congrArg Cpu.pushed (write_cpu device.cpu.sp byte .program device)

theorem pushPc_cpu (device : Device) : (pushPc device).2.cpu = device.cpu.pushed.pushed := by
  unfold pushPc
  rw [bind_apply, get_apply, bind_apply, push_cpu, push_cpu]

theorem pushFrame_cpu (device : Device) :
    (pushFrame device).2.cpu = device.cpu.pushed.pushed.pushed.pushed.pushed := by
  unfold pushFrame
  simp only [bind_apply, get_apply, push_cpu, pushPc_cpu]

end Device

/-! ## All instructions -/

/-- A relation that goes on with all that an instruction does to a device. -/
structure Recorder (R : List BusAccess → Device → Device → Prop) : Prop extends ReadRecorder R where
  write (address : UInt16) (byte : UInt8) :
    Records R (Device.write address byte .program) fun _ => [.write address byte]

namespace Recorder

variable {R : List BusAccess → Device → Device → Prop}

theorem push (recorder : Recorder R) (byte : UInt8) :
    Records R (push byte) fun device => pushAccesses device.cpu.sp [byte] := by
  unfold Device.push
  refine recorder.readCpu (fun looked _ => pushAccesses looked.cpu.sp [byte])
    (fun same => by rw [same]) (fun same => by rw [same]) fun device => ?_
  exact (recorder.write device.cpu.sp byte).quietly fun _ => recorder.changeCpu _ fun _ => by rfl

theorem pushPc (recorder : Recorder R) :
    Records R pushPc fun device => pushAccesses device.cpu.sp (returnBytes device.cpu.pc) := by
  have pushes (pc : UInt16) : Records R
      (Device.push pc.toUInt8 >>= fun _ => Device.push (Half.high.byteOf pc))
      fun device => pushAccesses device.cpu.sp (returnBytes pc) := by
    refine ((recorder.push _).bind fun _ => recorder.push _).relist fun device => ?_
    simp only [push_cpu, returnBytes, pushAccesses, Cpu.pushed, List.cons_append, List.nil_append]
  exact recorder.readCpu
    (fun looked device => pushAccesses device.cpu.sp (returnBytes looked.cpu.pc))
    (fun same => by rw [same]) (fun same => by rw [same]) fun device => pushes device.cpu.pc

theorem pushFrame (recorder : Recorder R) :
    Records R pushFrame fun device => pushAccesses device.cpu.sp (frameBytes device.cpu) := by
  -- each byte is looked up after those before it are pushed, which leaves the registers alone
  have pushes (f : Cpu → UInt8) : Records R (get >>= fun device => Device.push (f device.cpu))
      fun device => pushAccesses device.cpu.sp [f device.cpu] :=
    recorder.readCpu (fun looked device => pushAccesses device.cpu.sp [f looked.cpu])
      (fun same => by rw [same]) (fun same => by rw [same]) fun device => recorder.push (f device.cpu)
  have whole := recorder.pushPc.bind fun _ => (pushes (·.x)).bind fun _ =>
    (pushes (·.a)).bind fun _ => pushes fun cpu => cpu.cc ||| ~~~Flag.mask
  simp only [bind_assoc] at whole
  refine Records.relist whole fun device => ?_
  simp only [bind_apply, get_apply, push_cpu, pushPc_cpu, frameBytes, returnBytes, pushAccesses,
    Cpu.pushed, List.cons_append, List.nil_append]

theorem updateDirect (recorder : Recorder R) (change : UInt8 → UInt8) :
    Records R (updateDirect change) (updateAccesses change) := by
  unfold Device.updateDirect
  have whole := recorder.fetch.bind fun address => (recorder.read address.toUInt16).bind fun byte =>
    recorder.write address.toUInt16 (change byte)
  exact whole

theorem modifyMemory (recorder : Recorder R) (op : ModifyOp) (address : UInt16) :
    Records R (modifyMemory op address) (modifyAccesses op address) := by
  have computed (byte : UInt8) :=
    recorder.changeCpuAnswering (fun cpu => cpu.modify op byte) fun _ => rfl
  have stored (result : UInt8) : Records R
      (if op ≠ .tst then Device.write address result .program else pure ())
      fun _ => if op ≠ .tst then [.write address result] else [] :=
    .ite (recorder.write address result) (.pure ())
  have whole := (recorder.read address).bind fun byte => (computed byte).bind stored
  unfold Device.modifyMemory
  refine Records.relist whole fun device => ?_
  have cpu := read_cpu address .program device
  simp only [modifyGet_apply, cpu, Cpu.modify, modifyAccesses, ite_not, List.nil_append,
    List.cons_append]

theorem modifyTarget (recorder : Recorder R) (op : ModifyOp) (target : Target) :
    Records R (modifyTarget op target) (Instruction.modify op target).accesses := by
  unfold Device.modifyTarget
  cases target with
  | direct =>
    have whole := recorder.fetch.bind fun address => recorder.modifyMemory op address.toUInt16
    exact whole
  | accumulator => exact recorder.changeCpu _ fun _ => by rfl
  | index => exact recorder.changeCpu _ fun _ => by rfl
  | indexedByte =>
    have indexed (offset : UInt8) := recorder.readCpu
      (fun looked => modifyAccesses op (offset.toUInt16 + looked.cpu.x.toUInt16))
      (fun same => by rw [same]) (fun same => by rw [same])
      fun looked => recorder.modifyMemory op (offset.toUInt16 + looked.cpu.x.toUInt16)
    have whole := recorder.fetch.bind indexed
    exact whole
  | indexed =>
    have whole := recorder.readCpu (fun looked => modifyAccesses op looked.cpu.x.toUInt16)
      (fun same => by rw [same]) (fun same => by rw [same])
      fun looked => recorder.modifyMemory op looked.cpu.x.toUInt16
    exact whole

theorem storeRegister (recorder : Recorder R) (operand : Operand) (register : Cpu → UInt8) :
    Records R (storeRegister operand register) fun device =>
      let (address, addressed) := Device.operandAddress operand device
      device.operandAccesses operand ++ [.write address (register addressed.cpu)] := by
  unfold Device.storeRegister
  have stored (address : UInt16) := recorder.readCpu
    (fun looked _ => [.write address (register looked.cpu)])
    (fun same => by rw [same]) (fun same => by rw [same])
    fun looked => (recorder.write address (register looked.cpu)).quietly fun _ =>
      recorder.changeCpu (·.setSignZero (register looked.cpu)) fun _ => rfl
  exact (recorder.operandAddress operand).bind stored

/-- Every instruction makes the accesses that are listed for it. -/
theorem perform (recorder : Recorder R) (instruction : Instruction) :
    Records R (perform instruction) instruction.accesses := by
  cases instruction with
  | bset bit => exact recorder.updateDirect _
  | bclr bit => exact recorder.updateDirect _
  | bsr =>
    have whole := recorder.fetch.bind fun offset => recorder.pushPc.quietly fun _ =>
      recorder.branchIf true offset
    exact whole
  | modify op target => exact recorder.modifyTarget op target
  | sta operand => exact recorder.storeRegister operand _
  | stx operand => exact recorder.storeRegister operand _
  | jsr operand =>
    have whole := (recorder.operandAddress operand).bind fun address =>
      recorder.pushPc.quietly fun _ =>
        recorder.changeCpu (fun cpu => { cpu with pc := address }) fun _ => rfl
    exact whole
  | swi =>
    have whole := recorder.pushFrame.bind fun _ => recorder.maskInterrupts.bind fun _ =>
      recorder.jumpThrough softwareVector
    exact whole
  | _ => exact recorder.toReadRecorder.perform rfl

end Recorder

/-! ## Accounts of accesses -/

/-- A relation between the devices before and after, labelled by the accesses made in between, that
composes along lists and that the building blocks of instructions stay in. -/
structure AccessAccount (T : List BusAccess → Device → Device → Prop) : Prop where
  refl (device : Device) : T [] device device
  trans {early late : List BusAccess} {a b c : Device} :
    T early a b → T late b c → T (early ++ late) a c
  cpu (device : Device) {cpu : Cpu} (timeless : cpu.tick = device.cpu.tick) :
    T [] device { device with cpu }
  remark (text : Remark) (other : text ≠ .timeoutFlagCleared) : Moves (T []) (remark text)
  read (address : UInt16) (device : Device) :
    T [device.readAccess address] device (Device.read address .program device).2
  write (address : UInt16) (byte : UInt8) (device : Device) :
    T [.write address byte] device (Device.write address byte .program device).2

namespace AccessAccount

variable {T : List BusAccess → Device → Device → Prop} {α : Type}
  {action : Action α} {log : Device → List BusAccess}

/-- Being one device, reached from `start` with an account of the accesses. -/
def Beside (T : List BusAccess → Device → Device → Prop) (start : Device)
    (past : List BusAccess) (d e : Device) : Prop :=
  d = e ∧ T past start d

/-- A single run as two runs from the same device. -/
theorem records (account : AccessAccount T) (start : Device)
    (moves : ∀ device, T (log device) device (action device).2) :
    Records (Beside T start) action log := by
  rintro past d e ⟨rfl, reached⟩
  exact ⟨rfl, rfl, rfl, account.trans reached (moves d)⟩

/-- A single run through an instruction beside itself. -/
theorem recorder (account : AccessAccount T) (start : Device) : Recorder (Beside T start) where
  cpu related := by rw [related.1]
  lineAsserted related := by rw [related.1]
  changeCpu _ timeless := account.records start fun device => account.cpu device (timeless _)
  remark text other := account.records start (account.remark text other)
  read address := account.records start (account.read address)
  write address byte := account.records start (account.write address byte)

theorem of_records (account : AccessAccount T)
    (records : ∀ start, Records (Beside T start) action log) (device : Device) :
    T (log device) device (action device).2 := by
  obtain ⟨-, -, -, after⟩ := @records device [] device device ⟨rfl, account.refl device⟩
  exact after

theorem fetch (account : AccessAccount T) (device : Device) :
    T device.fetchAccesses device (fetch device).2 :=
  account.of_records (fun start => (account.recorder start).fetch) device

theorem pushFrame (account : AccessAccount T) (device : Device) :
    T (pushAccesses device.cpu.sp (frameBytes device.cpu)) device (pushFrame device).2 :=
  account.of_records (fun start => (account.recorder start).pushFrame) device

theorem jumpThrough (account : AccessAccount T) (vector : UInt16) (device : Device) :
    T (device.wordAccesses vector) device (jumpThrough vector device).2 :=
  account.of_records (fun start => (account.recorder start).jumpThrough vector) device

/-- An instruction is accounted for by the accesses that are listed for it. -/
theorem perform (account : AccessAccount T) (instruction : Instruction) (device : Device) :
    T (instruction.accesses device) device (perform instruction device).2 :=
  account.of_records (fun start => (account.recorder start).perform instruction) device

end AccessAccount
end M68HC05
