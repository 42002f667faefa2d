import M68HC05.Proofs.AccessFlow
import M68HC05.Proofs.Course
import M68HC05.Proofs.Glance
import M68HC05.Proofs.Step

/-!
The writes that a program makes. `Instruction.writes` lists the program writes of an instruction by
address and byte, `Device.stepWrites` those of a step and `Operation.writes` those of an operation.
That the lists are complete is the relation `Wrote`: the memory afterwards is the memory before with
the listed writes made, of which only those to RAM are taken, and the write watchpoints have counted
the listed writes and no others (`Wrote.perform`, `Wrote.step`, `Wrote.operation`).

So a program changes nothing but RAM, however long it runs and whatever the board does meanwhile,
and each byte of RAM is that of the last write to it (`only_ram_written`).
-/

namespace M68HC05

open M68HC05.Action

/-! ## RAM -/

/-- A program write as the bus carries it. -/
structure BusWrite where
  address : UInt16
  byte : UInt8
  deriving DecidableEq

/-- The addresses of RAM, the same on every part. -/
def inRam (address : UInt16) : Bool :=
  0x0050 ≤ address && address ≤ 0x00FF

theorem inRam_iff (address : UInt16) :
    inRam address = true ↔ 0x0050 ≤ address.toNat ∧ address.toNat ≤ 0x00FF := by
  simp only [inRam, Bool.and_eq_true, decide_eq_true_eq, UInt16.le_iff_toNat_le]
  rfl

/-- RAM lies behind registers and a little ROM, none of which reach into it. -/
theorem Variant.ram_place (variant : Variant) : ∃ before after,
    variant.addressMap = before ++ .both 0x0050 0x00FF .ram :: after ∧
      ∀ region ∈ before, region.last.toNat < 0x0050 := by
  cases variant with
  | c4 => exact ⟨peripheralRegions ++ [.rom 0x0020 0x004F], _, rfl, by decide⟩
  | c8 => exact ⟨peripheralRegions ++ [.rom 0x0020 0x004F], _, rfl, by decide⟩
  | c8a =>
    exact ⟨peripheralRegions ++ [.writeOnly 0x001D 0x001D .watchdogKey,
      .both 0x001E 0x001E .watchdogControl] ++ [.rom 0x0020 0x004F], _, rfl, by decide⟩

/-- Accesses to the addresses of RAM go to RAM, on every part. -/
theorem Variant.goes_to_ram (variant : Variant) {address : UInt16}
    (ram : inRam address = true) :
    variant.addressMap.reader? address = some (.ram, address - 0x0050) ∧
      variant.addressMap.writer? address = some (.ram, address - 0x0050) := by
  -- the first match is RAM itself, since all regions before it end below
  obtain ⟨before, after, map, below⟩ := variant.ram_place
  have passed : ∀ region ∈ before, region.contains address = false := by
    intro region member
    have low := below region member
    have reach := ((inRam_iff address).mp ram).1
    simp only [Region.contains, Bool.and_eq_false_iff, decide_eq_false_iff_not,
      UInt16.le_iff_toNat_le]
    omega
  have inside : (Region.both 0x0050 0x00FF .ram).contains address = true := ram
  have read : before.findSome? (·.reader? address) = none := by
    refine List.findSome?_eq_none_iff.mpr fun region member => ?_
    rw [Region.reader?, passed region member]
    rfl
  have written : before.findSome? (·.writer? address) = none := by
    refine List.findSome?_eq_none_iff.mpr fun region member => ?_
    rw [Region.writer?, passed region member]
    rfl
  rw [map, AddressMap.reader?, AddressMap.writer?, List.findSome?_append, List.findSome?_append,
    read, written, List.findSome?_cons, List.findSome?_cons, Region.reader?, Region.writer?, inside]
  exact ⟨rfl, rfl⟩

/-- A write goes to RAM exactly at the addresses of RAM. -/
theorem Variant.writer_ram_iff (variant : Variant) (address : UInt16) :
    (∃ offset, variant.addressMap.writer? address = some (.ram, offset)) ↔
      inRam address = true := by
  constructor
  · rintro ⟨offset, goes⟩
    have place : ∀ region ∈ variant.addressMap, region.write = some .ram →
        region.first = 0x0050 ∧ region.last = 0x00FF := by
      cases variant with
      | c4 => decide
      | c8 => decide
      | c8a => decide
    obtain ⟨above, below⟩ := AddressMap.bounds_of_writer? goes place
    rw [inRam, decide_eq_true above, decide_eq_true below]
    rfl
  · exact fun ram => ⟨_, (variant.goes_to_ram ram).2⟩

/-- ROM lies outside RAM. -/
theorem Variant.rom_outside_ram {variant : Variant} {address offset : UInt16}
    (goes : variant.addressMap.reader? address = some (.rom, offset)) :
    inRam address = false := by
  obtain ⟨region, member, inside, reads, -⟩ := AddressMap.exists_of_reader? goes
  have place : ∀ region ∈ variant.addressMap, region.read = some .rom →
      region.last.toNat < 0x0050 ∨ 0x00FF < region.first.toNat := by
    cases variant with
    | c4 => decide
    | c8 => decide
    | c8a => decide
  have apart := place region member reads
  simp only [Region.contains, Bool.and_eq_true, decide_eq_true_eq, UInt16.le_iff_toNat_le] at inside
  refine Bool.eq_false_iff.mpr fun ram => ?_
  have window := (inRam_iff address).mp ram
  omega

/-! ## Memory after writes -/

namespace Memory

/-- The memory after a program write: only RAM takes it. -/
def take (memory : Memory) (write : BusWrite) : Memory :=
  if inRam write.address then memory.write write.address write.byte else memory

/-- The memory after program writes in order. -/
def takeAll (memory : Memory) (writes : List BusWrite) : Memory :=
  writes.foldl take memory

end Memory

/-- The byte of the last of some writes to an address, if there is one. -/
def lastByte? (address : UInt16) (writes : List BusWrite) : Option UInt8 :=
  ((writes.filter (·.address = address)).getLast?).map (·.byte)

namespace Memory

/-- A write changes no byte but its own. -/
theorem read_take_of_ne (memory : Memory) {write : BusWrite} {address : UInt16}
    (other : write.address ≠ address) : (memory.take write).read address = memory.read address := by
  unfold take
  split
  · exact memory.read_write_of_ne write.byte other
  · rfl

/-- What is written to RAM is there. -/
theorem read_take_self (memory : Memory) {write : BusWrite} (ram : inRam write.address = true) :
    (memory.take write).read write.address = write.byte := by
  have low := ((inRam_iff write.address).mp ram).2
  rw [take, if_pos ram]
  exact memory.read_write_self write.address write.byte (Nat.lt_of_le_of_lt low (by decide))

/-- A byte outside RAM survives all writes. -/
theorem read_takeAll_outside (memory : Memory) (writes : List BusWrite) {address : UInt16}
    (outside : inRam address = false) :
    (memory.takeAll writes).read address = memory.read address := by
  induction writes generalizing memory with
  | nil => rfl
  | cons write writes ih =>
    refine (ih (memory.take write)).trans ?_
    by_cases same : write.address = address
    · rw [take, same, outside]
      rfl
    · exact memory.read_take_of_ne same

/-- A byte of RAM is that of the last write to it. -/
theorem read_takeAll_ram (memory : Memory) (writes : List BusWrite) {address : UInt16}
    (ram : inRam address = true) :
    (memory.takeAll writes).read address =
      (lastByte? address writes).getD (memory.read address) := by
  induction writes generalizing memory with
  | nil => rfl
  | cons write writes ih =>
    refine (ih (memory.take write)).trans ?_
    by_cases same : write.address = address
    · subst same
      rw [memory.read_take_self ram, lastByte?, lastByte?,
        List.filter_cons_of_pos (by simp), List.getLast?_cons]
      cases (writes.filter (·.address = write.address)).getLast? with
      | none => rfl
      | some later => rfl
    · rw [memory.read_take_of_ne same, lastByte?, lastByte?,
        List.filter_cons_of_neg (by simpa using same)]

end Memory

/-! ## Watchpoints after writes -/

/-- The watchpoints after program writes in order. -/
def countWrites (points : List Watchpoint) (writes : List BusWrite) : List Watchpoint :=
  writes.foldl (fun points write => points.map (·.count write.address .write write.byte)) points

theorem Watchpoint.count_kind (point : Watchpoint) (address : UInt16) (made : WatchKind)
    (byte : UInt8) : (point.count address made byte).kind = point.kind := by
  unfold Watchpoint.count
  split
  · rfl
  · rfl

/-- A write watchpoint does not count reads. -/
theorem Watchpoint.count_read {point : Watchpoint} (writes : point.kind = .write)
    (address : UInt16) (byte : UInt8) : point.count address .read byte = point := by
  have idle : point.triggers address .read byte = false := by
    simp [Watchpoint.triggers, WatchKind.covers, writes]
  unfold Watchpoint.count
  rw [idle]
  rfl

/-- The watchpoints that count writes and nothing else. -/
def WatchList.writePoints (list : WatchList) : List Watchpoint :=
  list.points.filter (·.kind = .write)

theorem WatchList.writePoints_observe (list : WatchList) (address : UInt16) (made : WatchKind)
    (byte : UInt8) (previous : Option UInt8) :
    (list.observe address made byte previous).next.writePoints =
      list.writePoints.map (·.count address made byte) := by
  change (list.points.map (·.count address made byte)).filter _ = _
  rw [List.filter_map]
  unfold Function.comp
  simp only [Watchpoint.count_kind]
  rfl

namespace Device

/-! ## What is written -/

/-- The writes of pushing bytes from a stack pointer down. -/
def pushes (sp : UInt16) : List UInt8 → List BusWrite
  | [] => []
  | byte :: bytes => ⟨busAddress sp, byte⟩ :: pushes (Cpu.stackAddress (sp - 1)) bytes

/-- The write of replacing a byte by a function of it. -/
def updateWrites (change : UInt8 → UInt8) (address : UInt16) (device : Device) : List BusWrite :=
  [⟨busAddress address, change (read address .program device).1⟩]

/-- The writes of a read-modify-write operation on a byte in memory. -/
def modifyWrites (op : ModifyOp) (address : UInt16) (device : Device) : List BusWrite :=
  if op = .tst then [] else updateWrites (device.cpu.modified op) address device

end Device

open Device

/-- The program writes of an instruction on a device that has fetched its opcode. -/
def Instruction.writes (instruction : Instruction) (device : Device) : List BusWrite :=
  match instruction with
  | bset bit =>
    let (address, fetched) := fetch device
    updateWrites (· ||| (1 <<< bit)) address.toUInt16 fetched
  | bclr bit =>
    let (address, fetched) := fetch device
    updateWrites (· &&& ~~~(1 <<< bit)) address.toUInt16 fetched
  | bsr =>
    let (_, fetched) := fetch device
    pushes fetched.cpu.sp (returnBytes fetched.cpu.pc)
  | modify op target =>
    match target with
    | .direct =>
      let (address, fetched) := fetch device
      modifyWrites op address.toUInt16 fetched
    | .accumulator => []
    | .index => []
    | .indexedByte =>
      let (offset, fetched) := fetch device
      modifyWrites op (offset.toUInt16 + fetched.cpu.x.toUInt16) fetched
    | .indexed => modifyWrites op device.cpu.x.toUInt16 device
  | sta operand =>
    let (address, addressed) := operandAddress operand device
    [⟨busAddress address, addressed.cpu.a⟩]
  | stx operand =>
    let (address, addressed) := operandAddress operand device
    [⟨busAddress address, addressed.cpu.x⟩]
  | jsr operand =>
    let (_, addressed) := operandAddress operand device
    pushes addressed.cpu.sp (returnBytes addressed.cpu.pc)
  | swi => pushes device.cpu.sp (frameBytes device.cpu)
  | _ => []

namespace Device

/-- The program writes of taking an interrupt, if one is due. -/
def entryWrites (device : Device) : List BusWrite :=
  match device.interruptDue? with
  | some _ => pushes device.cpu.sp (frameBytes device.cpu)
  | none => []

/-- The program writes of a turn of the processor. -/
def turnWrites (device : Device) : List BusWrite :=
  match device.cpu.state with
  | .running => device.nextInstruction.writes (fetch device).2
  | _ => []

/-- The program writes of a step. -/
def stepWrites (device : Device) : List BusWrite :=
  device.entryWrites ++ (serveInterrupt device).2.turnWrites

end Device

/-- The program writes of an operation of a board: its own, or those of the steps it makes. -/
def Operation.writes (operation : Operation) (device : Device) : List BusWrite :=
  match operation with
  | write address byte _ => [⟨busAddress address, byte⟩]
  | operation => (operation.boundaries device).flatMap stepWrites

/-! ## The writes are what is written -/

/-- From one device to the other, just these program writes are made: the memory has taken them, and
the write watchpoints have counted them. -/
structure Wrote (writes : List BusWrite) (before after : Device) : Prop where
  variant : after.variant = before.variant
  memory : after.memory = before.memory.takeAll writes
  watched : after.watches.writePoints = countWrites before.watches.writePoints writes

namespace Wrote

theorem refl (device : Device) : Wrote [] device device :=
  ⟨rfl, rfl, rfl⟩

theorem trans {early late : List BusWrite} {a b c : Device} (first : Wrote early a b)
    (second : Wrote late b c) : Wrote (early ++ late) a c where
  variant := second.variant.trans first.variant
  memory := by
    rw [second.memory, first.memory]
    exact List.foldl_append.symm
  watched := by
    rw [second.watched, first.watched]
    exact List.foldl_append.symm

/-- What writes nothing may follow. -/
theorem quiet {writes : List BusWrite} {a b c : Device} (first : Wrote writes a b)
    (rest : Wrote [] b c) : Wrote writes a c := by
  have both := first.trans rest
  rw [List.append_nil] at both
  exact both

theorem account : Account Wrote where
  refl := refl
  trans := trans
  stop _ _ := ⟨rfl, rfl, rfl⟩
  grant _ _ := ⟨rfl, rfl, rfl⟩

/-- Accesses other than writes to RAM write nothing. -/
theorem accessFlow : AccessFlow (Wrote []) where
  refl := refl
  trans := trans
  ports _ _ := ⟨rfl, rfl, rfl⟩
  timer _ _ := ⟨rfl, rfl, rfl⟩
  watchdog _ _ := ⟨rfl, rfl, rfl⟩
  entry _ _ _ := ⟨rfl, rfl, rfl⟩
  refresh _ := ⟨rfl, rfl, rfl⟩
  observeRead address byte device := by
    refine ⟨rfl, rfl, ?_⟩
    have counted := device.watches.writePoints_observe address .read byte none
    refine counted.trans ?_
    refine (List.map_congr_left fun point member => ?_).trans (List.map_id _)
    have writes : point.kind = .write := by simpa using (List.mem_filter.mp member).2
    exact Watchpoint.count_read writes address byte
  cleared _ := ⟨rfl, rfl, rfl⟩

theorem readFlow : ReadFlow (Wrote []) where
  toFlow := accessFlow.toFlow
  cpu _ _ _ := ⟨rfl, rfl, rfl⟩
  remark := accessFlow.remark
  read := accessFlow.read

/-- Behind the watch list, a program write reaches RAM or writes nothing. -/
theorem passWrite (write : BusWrite) (device : Device) :
    let after := (Device.passWrite write.address write.byte .program device).2
    after.variant = device.variant ∧ after.memory = device.memory.take write ∧
      after.watches.writePoints = device.watches.writePoints := by
  have ram := device.variant.writer_ram_iff write.address
  unfold Device.passWrite
  rw [bind_apply, get_apply]
  dsimp only
  rcases goes : device.variant.addressMap.writer? write.address with _ | ⟨handler, offset⟩
  · have outside : inRam write.address = false := by
      rw [← Bool.not_eq_true, ← ram, goes]
      simp
    refine ⟨rfl, ?_, rfl⟩
    rw [Memory.take, outside]
    rfl
  · by_cases toRam : handler = .ram
    · have inside : inRam write.address = true := ram.mp ⟨offset, by rw [goes, toRam]⟩
      rw [toRam, Memory.take, inside]
      exact ⟨rfl, rfl, rfl⟩
    · have outside : inRam write.address = false := by
        rw [← Bool.not_eq_true, ← ram, goes]
        simp [toRam]
      obtain ⟨variant, memory, watched⟩ :=
        accessFlow.writeHandler toRam offset write.address write.byte device
      rw [Memory.take, outside]
      exact ⟨variant, memory, watched⟩

/-- A program write makes one write. -/
theorem write (address : UInt16) (byte : UInt8) (device : Device) :
    Wrote [⟨busAddress address, byte⟩] device (Device.write address byte .program device).2 := by
  let observed := (observe (busAddress address) .write byte
    (some (device.memory.read (busAddress address))) device).2
  obtain ⟨variant, memory, watched⟩ := passWrite ⟨busAddress address, byte⟩ observed
  exact ⟨variant, memory, watched.trans (device.watches.writePoints_observe _ .write byte _)⟩

end Wrote

/-! ## Instructions -/

/-- The write that an access makes. -/
def BusAccess.write? (access : BusAccess) : Option BusWrite :=
  if access.made = .write then some ⟨access.address, access.byte⟩ else none

/-- The writes among some accesses, in order. -/
def writesAmong (accesses : List BusAccess) : List BusWrite :=
  accesses.filterMap BusAccess.write?

theorem writesAmong_append (early late : List BusAccess) :
    writesAmong (early ++ late) = writesAmong early ++ writesAmong late :=
  List.filterMap_append

theorem writesAmong_pushAccesses (sp : UInt16) (bytes : List UInt8) :
    writesAmong (pushAccesses sp bytes) = pushes sp bytes := by
  induction bytes generalizing sp with
  | nil => rfl
  | cons byte bytes ih => exact congrArg (List.cons _) (ih _)

theorem writesAmong_operandAccesses (operand : Operand) (device : Device) :
    writesAmong (device.operandAccesses operand) = [] := by
  cases operand with
  | _ => rfl

theorem writesAmong_modifyAccesses (op : ModifyOp) (address : UInt16) (device : Device) :
    writesAmong (device.modifyAccesses op address) = modifyWrites op address device := by
  unfold modifyAccesses modifyWrites
  split
  · rfl
  · rfl

/-- The writes that are listed for an instruction are those among its accesses. -/
theorem Instruction.writesAmong_accesses (instruction : Instruction) (device : Device) :
    writesAmong (instruction.accesses device) = instruction.writes device := by
  cases instruction with
  | bsr => exact writesAmong_pushAccesses _ _
  | modify op target =>
    cases target with
    | direct => exact writesAmong_modifyAccesses op _ _
    | accumulator => rfl
    | index => rfl
    | indexedByte => exact writesAmong_modifyAccesses op _ _
    | indexed => exact writesAmong_modifyAccesses op _ device
  | register op operand =>
    unfold accesses
    rw [writesAmong_append, writesAmong_operandAccesses]
    rfl
  | sta operand =>
    unfold accesses
    rw [writesAmong_append, writesAmong_operandAccesses]
    rfl
  | stx operand =>
    unfold accesses
    rw [writesAmong_append, writesAmong_operandAccesses]
    rfl
  | jmp operand => exact writesAmong_operandAccesses operand device
  | jsr operand =>
    unfold accesses
    rw [writesAmong_append, writesAmong_operandAccesses, writesAmong_pushAccesses]
    rfl
  | swi =>
    unfold accesses
    rw [writesAmong_append, writesAmong_pushAccesses]
    exact List.append_nil _
  | _ => rfl

/-- An account of writes is one of accesses that takes note of the writes among them. -/
theorem AccessAccount.ofWrites {T : List BusWrite → Device → Device → Prop}
    (refl : ∀ device, T [] device device)
    (trans : ∀ {early late a b c}, T early a b → T late b c → T (early ++ late) a c)
    (reads : ReadFlow (T []))
    (write : ∀ address byte device,
      T [⟨busAddress address, byte⟩] device (Device.write address byte .program device).2) :
    AccessAccount fun accesses => T (writesAmong accesses) where
  refl := refl
  trans first second := by
    rw [writesAmong_append]
    exact trans first second
  cpu device _ timeless := reads.cpu device timeless
  remark := reads.remark
  read address device := reads.read address device
  write := write

namespace Wrote

theorem accessAccount : AccessAccount fun accesses => Wrote (writesAmong accesses) :=
  .ofWrites refl trans readFlow write

/-- An instruction makes the writes that are listed for it. -/
theorem perform (instruction : Instruction) (device : Device) :
    Wrote (instruction.writes device) device (perform instruction device).2 := by
  rw [← instruction.writesAmong_accesses]
  exact accessAccount.perform instruction device

/-! ## Steps -/

theorem charge (cycles : Nat) : Moves (Wrote []) (charge cycles) :=
  accessFlow.charge cycles (fun _ => ⟨rfl, rfl, rfl⟩) fun _ => ⟨rfl, rfl, rfl⟩

theorem reset : Moves (Wrote []) reset :=
  accessFlow.reset (fun _ => ⟨rfl, rfl, rfl⟩) (readFlow.jumpThrough resetVector)

theorem framed (device : Device) :
    Wrote (pushes device.cpu.sp (frameBytes device.cpu)) device device.framed := by
  have pushed := accessAccount.pushFrame device
  rw [writesAmong_pushAccesses] at pushed
  unfold Device.framed
  generalize (Device.pushFrame device).2 = after at pushed ⊢
  exact pushed.quiet (readFlow.cpu after rfl)

/-- Taking an interrupt writes the frame and nothing else. -/
theorem entered (line : InterruptLine) (device : Device) :
    Wrote (pushes device.cpu.sp (frameBytes device.cpu)) device (device.entered line) :=
  (framed device).quiet (entered_of_framed readFlow (fun _ => ⟨rfl, rfl, rfl⟩) device)

theorem serveInterrupt (device : Device) :
    Wrote device.entryWrites device (serveInterrupt device).2 := by
  unfold entryWrites
  rcases due : device.interruptDue? with _ | line
  · rw [serveInterrupt_idle due]
    exact refl device
  · rw [serveInterrupt_due due]
    exact (entered line device).quiet (charge interruptCycles _)

theorem runProcessor (device : Device) :
    Wrote device.turnWrites device (runProcessor device).2 := by
  unfold turnWrites
  cases state : device.cpu.state with
  | running =>
    rw [runProcessor_running state]
    have performed := (readFlow.fetch device).trans (perform device.nextInstruction _)
    exact performed.quiet (charge _ _)
  | wait =>
    rw [runProcessor_wait state]
    exact charge idleCycles device
  | stop =>
    rw [runProcessor_stop state]
    exact ⟨rfl, rfl, rfl⟩

/-- A step makes the writes that are listed for it. -/
theorem step (device : Device) : Wrote device.stepWrites device (step device).2 := by
  have turned : Wrote device.stepWrites device device.turned :=
    (serveInterrupt device).trans (runProcessor _)
  rw [step_apply]
  dsimp only
  split
  · exact turned.quiet (reset device.turned)
  · exact turned

/-! ## Operations -/

theorem start : Moves (Wrote []) start :=
  accessFlow.toFlow.bind (fun _ => ⟨rfl, rfl, rfl⟩) fun _ => reset

theorem setInputLine (line : InputLine) (asserted : Bool) :
    Moves (Wrote []) (setInputLine line asserted) := by
  have flow := accessFlow.toFlow
  unfold Device.setInputLine
  cases line with
  | interrupt =>
    unfold setInterruptLine
    refine Moves.get fun _ => .ite (fun _ => ?_) fun _ _ => ⟨rfl, rfl, rfl⟩
    refine flow.bind (readFlow.remark _ Remark.noConfusion) fun _ => ?_
    exact flow.bind (fun _ => ⟨rfl, rfl, rfl⟩) fun _ _ => ⟨rfl, rfl, rfl⟩
  | capture =>
    unfold setCaptureLine
    exact flow.bind (accessFlow.onTimer fun timer => timer.silent_setCaptureLevel asserted)
      fun _ => accessFlow.refresh
  | reset => exact .ite (fun _ => reset) fun _ => flow.pure ()

/-- An operation of a board makes the writes that are listed for it. -/
theorem operation {operation : Operation} (board : operation.ofBoard = true) (device : Device) :
    Wrote (operation.writes device) device (operation.run device).2 := by
  have flow := accessFlow.toFlow
  cases operation with
  | start => exact start device
  | reset => exact reset device
  | setInputLine line asserted => exact setInputLine line asserted device
  | step => exact account.stepping step rfl device
  | execute cycles => exact account.stepping step rfl device
  | executeClocks clocks => exact account.stepping step rfl device
  | read address access =>
    have program : access = .program := of_decide_eq_true board
    rw [program]
    exact accessFlow.read address device
  | readWord address access =>
    have program : access = .program := of_decide_eq_true board
    rw [program]
    exact (accessFlow.read address device).trans (accessFlow.read (address + 1) _)
  | write address byte access =>
    have program : access = .program := of_decide_eq_true board
    rw [program]
    exact write address byte device
  | perform opcode => cases board
  | setRegister register value => cases board
  | symbolLines => cases board
  | takeHit => cases board

theorem run {operations : List Operation}
    (board : ∀ operation ∈ operations, operation.ofBoard = true) (device : Device) :
    Wrote (along Operation.writes operations device) device (runAll operations device) :=
  account.along (fun made member => operation (board made member)) device

end Wrote

/-! ## No program changes anything but RAM -/

/-- Whatever a board does with a device of any part and any memory while a program runs on it, for
any number of operations:

* no byte outside RAM changes;
* program reads of ROM answer the bytes that were there before;
* program reads of addresses that nothing is wired to answer 0xFF;
* each byte of RAM is that of the last program write to it, or the one before if there was none;
* the program writes are those that write watchpoints have counted. -/
theorem only_ram_written (device : Device) {operations : List Operation}
    (board : ∀ operation ∈ operations, operation.ofBoard = true) :
    let writes := along Operation.writes operations device
    let after := runAll operations device
    (∀ address, ¬ (0x0050 ≤ address ∧ address ≤ 0x00FF) →
        after.memory.read address = device.memory.read address) ∧
      (∀ address offset,
        after.variant.addressMap.reader? (busAddress address) = some (.rom, offset) →
          (Device.read address .program after).1 = device.memory.read (busAddress address)) ∧
      (∀ address, after.variant.addressMap.reader? (busAddress address) = none →
        (Device.read address .program after).1 = 0xFF) ∧
      (∀ address, 0x0050 ≤ address ∧ address ≤ 0x00FF →
        after.memory.read address =
          (lastByte? address writes).getD (device.memory.read address)) ∧
      after.watches.writePoints = countWrites device.watches.writePoints writes := by
  intro writes after
  obtain ⟨-, memory, watched⟩ := Wrote.run board device
  have outside {address : UInt16} (apart : inRam address = false) :
      after.memory.read address = device.memory.read address := by
    rw [memory]
    exact device.memory.read_takeAll_outside writes apart
  refine ⟨fun address apart => outside ?_, fun address offset goes => ?_, fun address goes => ?_,
    fun address ram => ?_, watched⟩
  · rw [← Bool.not_eq_true, inRam, Bool.and_eq_true, decide_eq_true_eq, decide_eq_true_eq]
    exact apart
  · rw [read_value, goes]
    exact outside (Variant.rom_outside_ram goes)
  · rw [read_value, goes]
  · rw [memory]
    refine device.memory.read_takeAll_ram writes ?_
    rw [inRam, Bool.and_eq_true, decide_eq_true_eq, decide_eq_true_eq]
    exact ram

/-- A part that meets `INC $62` in its RAM. -/
def Device.counting : Device :=
  { Device.new .c4 4000000 with
    cpu := { Cpu.initial with pc := 0x0060 }
    memory := (Memory.zero.write 0x0060 0x3C).write 0x0061 0x62 }

/-- Writes of an instruction, of the board through an alias of RAM, and of the board to ROM. -/
theorem only_ram_written_by_counting :
    let script := [.step, .write 0x2063 0x33 .program, .write 0x0100 0x44 .program]
    (∀ operation ∈ script, operation.ofBoard = true) ∧
      (runAll script .counting).memory.read 0x0062 = 1 ∧
      (runAll script .counting).memory.read 0x0063 = 0x33 ∧
      (runAll script .counting).memory.read 0x0100 = Device.counting.memory.read 0x0100 := by
  intro script
  have board : ∀ operation ∈ script, operation.ofBoard = true := by decide
  have writes : along Operation.writes script .counting =
      [⟨0x0062, 1⟩, ⟨0x0063, 0x33⟩, ⟨0x0100, 0x44⟩] := by decide +kernel
  obtain ⟨outside, -, -, ram, -⟩ := only_ram_written .counting board
  refine ⟨board, (ram 0x0062 (by decide)).trans ?_, (ram 0x0063 (by decide)).trans ?_,
    outside 0x0100 (by decide)⟩
  · rw [writes]
    rfl
  · rw [writes]
    rfl

end M68HC05
