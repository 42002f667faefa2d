import M68HC05.Proofs.Service
import M68HC05.Proofs.Stack

/-!
Resumption of interrupted programs. The processor leaves a program for a vector when it serves an
interrupt and when it meets `SWI`; both ways save the registers in a frame on the stack (`Entered`).
`RTI` takes the frame off again byte by byte (`Device.rti_cpu`), and puts back what was saved, no
matter what has become of the device in between, as long as the stack pointer and the five bytes of
the frame are those of the entry (`Interruption.undone_by_rti`).
-/

namespace M68HC05

open M68HC05.Action Device

/-! ## Leaving a program -/

/-- What the processor leaves a program for. -/
inductive Interruption where
  | service (line : InterruptLine)
  | software
  deriving DecidableEq

namespace Interruption

/-- The interruption is about to happen: the line is due, or the processor meets `SWI`. -/
def Occurs (device : Device) : Interruption → Prop
  | service line => device.interruptDue? = some line
  | software => device.cpu.state = .running ∧ device.nextInstruction = .swi

/-- Leaves the program. -/
def enter : Interruption → Action Nat
  | service _ => serveInterrupt
  | software => runProcessor

/-- The registers with which the program is to go on: as they are, or past the `SWI`. -/
def saved (cpu : Cpu) : Interruption → Cpu
  | service _ => cpu
  | software => { cpu with pc := cpu.nextPc }

end Interruption

namespace Device

/-- The frame of some registers lies below the stack pointer that they have. -/
def HoldsFrame (saved : Cpu) (device : Device) : Prop :=
  ∀ depth < 5, some (device.memory.read (Cpu.slot saved.sp depth)) = (frameBytes saved)[depth]?

end Device

/-- A program with these registers is left: they are in a frame on the stack, no other byte of memory
has changed, and interrupts are masked. -/
structure Entered (saved : Cpu) (before after : Device) : Prop where
  memory : after.memory = before.memory.takeAll (pushes saved.sp (frameBytes saved))
  sp : after.cpu.sp = Cpu.slot saved.sp 5
  masked : after.cpu.flag .interruptMask = true

/-- A push moves to the slot below. -/
theorem Cpu.pushed_slot {cpu : Cpu} {sp : UInt16} {depth : Nat} (lies : cpu.sp = slot sp depth) :
    cpu.pushed.sp = slot sp (depth + 1) := by
  rw [← slot_below, ← lies]
  rfl

namespace Device

/-- Going on through a vector changes the program counter only. -/
theorem jumpThrough_cpu (vector : UInt16) (device : Device) :
    ∃ pc, (jumpThrough vector device).2.cpu = { device.cpu with pc } := by
  have high := read_cpu vector .program device
  have low := read_cpu (vector + 1) .program (read vector .program device).2
  refine ⟨busAddress (readWord vector .program device).1, ?_⟩
  rw [← high, ← low]
  rfl

/-- Saving a frame enters as far as registers and memory go. -/
theorem entered_framed {device : Device} (range : device.CpuInRange) :
    Entered device.cpu device device.framed where
  memory := (Wrote.framed device).memory
  sp := by
    have start : device.cpu.sp = Cpu.slot device.cpu.sp 0 := range.slot_zero.symm
    have five := Cpu.pushed_slot (Cpu.pushed_slot (Cpu.pushed_slot (Cpu.pushed_slot
      (Cpu.pushed_slot start))))
    rw [framed_cpu]
    exact five
  masked := by
    rw [framed_cpu]
    exact Cpu.flag_setFlag _ _ _

end Device

namespace Entered

variable {saved : Cpu} {before middle after : Device}

/-- What leaves memory, stack pointer and condition codes alone may follow. -/
theorem quiet (entered : Entered saved before middle) (memory : after.memory = middle.memory)
    {registers : Cpu} (cpu : after.cpu = registers) (sp : registers.sp = middle.cpu.sp)
    (cc : registers.cc = middle.cpu.cc) : Entered saved before after where
  memory := memory.trans entered.memory
  sp := by
    rw [cpu, sp]
    exact entered.sp
  masked := by
    have masked := entered.masked
    unfold Cpu.flag at masked ⊢
    rw [cpu, cc]
    exact masked

theorem charge (entered : Entered saved before middle) (cycles : Nat) :
    Entered saved before (charge cycles middle).2 :=
  entered.quiet (Wrote.charge cycles middle).memory (charge_cpu cycles middle) rfl rfl

/-- Only the slots of the frame have changed. -/
theorem read_off (entered : Entered saved before after) (range : saved.InRange)
    {address : UInt16} (off : ∀ depth < 5, address ≠ Cpu.slot saved.sp depth) :
    after.memory.read address = before.memory.read address := by
  have kept := before.memory.read_pushes_off saved.sp (frameBytes saved) off
  rw [range.slot_zero] at kept
  rw [entered.memory]
  exact kept

/-- The frame is on the stack. -/
theorem holdsFrame (entered : Entered saved before after) (range : saved.InRange) :
    after.HoldsFrame saved := by
  intro depth inside
  have room : (frameBytes saved).length ≤ 64 := Nat.le_of_ble_eq_true rfl
  have within : depth < (frameBytes saved).length := inside
  have pushed := before.memory.read_pushes_slot saved.sp (frameBytes saved) room within
  rw [range.slot_zero] at pushed
  rw [entered.memory, pushed, List.getElem?_eq_getElem within]

end Entered

namespace Device

theorem perform_swi (device : Device) :
    perform .swi device = jumpThrough softwareVector device.framed := by
  unfold perform framed
  dsimp only
  rw [bind_apply, bind_apply]

theorem entered_swi {device : Device} (range : device.CpuInRange) :
    Entered device.cpu device (perform .swi device).2 := by
  have memory := (Wrote.readFlow.jumpThrough softwareVector device.framed).memory
  obtain ⟨pc, cpu⟩ := jumpThrough_cpu softwareVector device.framed
  rw [perform_swi]
  exact (entered_framed range).quiet memory cpu rfl rfl

theorem entered_service {line : InterruptLine} {device : Device} (range : device.CpuInRange) :
    Entered device.cpu device (device.entered line) := by
  have memory : (device.entered line).memory = device.framed.memory :=
    (entered_of_framed Wrote.readFlow (fun _ => ⟨rfl, rfl, rfl⟩) device).memory
  have cpu := entered_cpu line device
  rw [← framed_cpu] at cpu
  exact (entered_framed range).quiet memory cpu rfl rfl

/-- Fetching a byte moves the program counter and leaves the memory as it is. -/
theorem fetch_core (device : Device) :
    (fetch device).2.memory = device.memory ∧
      (fetch device).2.cpu = { device.cpu with pc := device.cpu.nextPc } := by
  have memory := read_memory device.cpu.pc device
  have cpu := read_cpu device.cpu.pc .program device
  unfold fetch
  simp only [bind_apply, get_apply, pure_apply]
  generalize read device.cpu.pc .program device = outcome at memory cpu ⊢
  exact ⟨memory, congrArg (fun cpu : Cpu => { cpu with pc := cpu.nextPc }) cpu⟩

end Device

namespace Interruption

theorem saved_inRange (interruption : Interruption) {cpu : Cpu} (range : cpu.InRange) :
    (interruption.saved cpu).InRange := by
  cases interruption with
  | service line => exact range
  | software => exact range.goto (busAddress_lt _)

theorem saved_sp (interruption : Interruption) (cpu : Cpu) :
    (interruption.saved cpu).sp = cpu.sp := by
  cases interruption with
  | service line => rfl
  | software => rfl

/-- Serving an interrupt and `SWI` save the same frame. -/
theorem entered (interruption : Interruption) {device : Device} (range : device.CpuInRange)
    (occurs : interruption.Occurs device) :
    Entered (interruption.saved device.cpu) device (interruption.enter device).2 := by
  cases interruption with
  | service line =>
    change Entered device.cpu device (serveInterrupt device).2
    rw [serveInterrupt_due occurs]
    dsimp only
    exact (entered_service range).charge interruptCycles
  | software =>
    -- the frame holds the registers as they are once the opcode is fetched
    obtain ⟨running, meets⟩ := occurs
    obtain ⟨memory, cpu⟩ := fetch_core device
    have performed := entered_swi (CpuInRange.fetch device range)
    rw [cpu] at performed
    have left := performed.charge Instruction.swi.cycles
    change Entered { device.cpu with pc := device.cpu.nextPc } device (runProcessor device).2
    rw [runProcessor_running running, meets]
    dsimp only
    refine ⟨?_, left.sp, left.masked⟩
    rw [← memory]
    exact left.memory

end Interruption

/-! ## Going on -/

namespace Device

/-- A register is pulled from the slot above. -/
theorem pullInto_slot (set : UInt8 → Cpu → Cpu) {device : Device} {sp : UInt16} {depth : Nat}
    (lies : device.cpu.sp = Cpu.slot sp (depth + 1)) :
    (pullInto set device).2.memory = device.memory ∧
      (pullInto set device).2.cpu =
        set (device.memory.read (Cpu.slot sp depth))
          { device.cpu with sp := Cpu.slot sp depth } := by
  obtain ⟨value, memory, cpu⟩ := pull_slot lies
  unfold pullInto
  rw [bind_apply, ← value, ← cpu]
  generalize pull device = outcome at memory ⊢
  exact ⟨memory, rfl⟩

/-- The program counter is pulled from the two slots above. -/
theorem pullPc_slot {device : Device} {sp : UInt16} (lies : device.cpu.sp = Cpu.slot sp 2) :
    (pullPc device).2.cpu = { device.cpu with
      pc := busAddress (joinBytes (device.memory.read (Cpu.slot sp 1))
        (device.memory.read (Cpu.slot sp 0)))
      sp := Cpu.slot sp 0 } := by
  obtain ⟨high, memory, cpu⟩ := pull_slot lies
  unfold pullPc
  rw [bind_apply, ← high]
  generalize pull device = outcome at memory cpu ⊢
  have between : outcome.2.cpu.sp = Cpu.slot sp 1 := congrArg Cpu.sp cpu
  obtain ⟨low, -, last⟩ := pull_slot between
  rw [bind_apply, ← memory, ← low]
  generalize pull outcome.2 = ending at last ⊢
  rw [cpu] at last
  exact congrArg (fun cpu : Cpu => { cpu with
    pc := busAddress (joinBytes outcome.1 ending.1) }) last

theorem perform_rti (device : Device) : perform .rti device =
    pullPc (pullInto (fun x cpu => { cpu with x }) (pullInto (fun a cpu => { cpu with a })
      (pullInto (fun cc cpu => { cpu with cc := cc &&& Flag.mask }) device).2).2).2 := by
  unfold perform pullInto
  simp only [bind_apply]

/-- `RTI` takes five bytes off the stack, in the reverse of the order in which a frame is pushed. -/
theorem rti_cpu {device : Device} {sp : UInt16} (lies : device.cpu.sp = Cpu.slot sp 5) :
    (perform .rti device).2.cpu = { device.cpu with
      cc := device.memory.read (Cpu.slot sp 4) &&& Flag.mask
      a := device.memory.read (Cpu.slot sp 3)
      x := device.memory.read (Cpu.slot sp 2)
      pc := busAddress (joinBytes (device.memory.read (Cpu.slot sp 1))
        (device.memory.read (Cpu.slot sp 0)))
      sp := Cpu.slot sp 0 } := by
  -- no pull changes the memory, so each finds the frame as it was at first
  rw [perform_rti]
  obtain ⟨memory₁, cpu₁⟩ := pullInto_slot (fun cc cpu => { cpu with cc := cc &&& Flag.mask }) lies
  generalize pullInto _ device = first at memory₁ cpu₁ ⊢
  obtain ⟨memory₂, cpu₂⟩ := pullInto_slot (fun a cpu => { cpu with a }) (congrArg Cpu.sp cpu₁)
  generalize pullInto _ first.2 = second at memory₂ cpu₂ ⊢
  obtain ⟨memory₃, cpu₃⟩ := pullInto_slot (fun x cpu => { cpu with x }) (congrArg Cpu.sp cpu₂)
  generalize pullInto _ second.2 = third at memory₃ cpu₃ ⊢
  rw [pullPc_slot (congrArg Cpu.sp cpu₃), cpu₃, cpu₂, cpu₁, memory₃, memory₂, memory₁]

end Device

/-- The registers that are put back are those that were saved. -/
structure Cpu.Resumes (saved back : Cpu) : Prop where
  pc : back.pc = saved.pc
  a : back.a = saved.a
  x : back.x = saved.x
  cc : back.cc = saved.cc
  sp : back.sp = saved.sp

/-- The cycle counter runs on. -/
theorem Cpu.Resumes.addTicks {saved back : Cpu} (resumes : saved.Resumes back) (cycles : Nat) :
    saved.Resumes (back.addTicks cycles) :=
  ⟨resumes.pc, resumes.a, resumes.x, resumes.cc, resumes.sp⟩

/-- The ones in place of the unused condition codes are cut off again. -/
theorem Flag.cut_stacked {cc : UInt8} (within : HasOnly mask cc) :
    (cc ||| ~~~mask) &&& mask = cc := by
  rw [or_and_right8, UInt8.not_and_self, UInt8.or_zero]
  exact within

/-- The two halves of a program counter in range make it up. -/
theorem Cpu.InRange.join_stacked {cpu : Cpu} (range : cpu.InRange) :
    busAddress (joinBytes (Half.high.byteOf cpu.pc) cpu.pc.toUInt8) = cpu.pc := by
  have whole : joinBytes (Half.high.byteOf cpu.pc) cpu.pc.toUInt8 = cpu.pc :=
    Half.joinBytes_byteOf cpu.pc
  have inside := range.pc
  apply UInt16.toNat_inj.mp
  rw [whole, toNat_busAddress, Nat.mod_eq_of_lt inside]

namespace Device

/-- `RTI` puts back the registers whose frame is on top of the stack. -/
theorem HoldsFrame.resumes {saved : Cpu} {device : Device} (holds : device.HoldsFrame saved)
    (range : saved.InRange) (lies : device.cpu.sp = Cpu.slot saved.sp 5) :
    saved.Resumes (perform .rti device).2.cpu := by
  have low : _ = saved.pc.toUInt8 := Option.some.inj (holds 0 (by decide))
  have high : _ = Half.high.byteOf saved.pc := Option.some.inj (holds 1 (by decide))
  have x : _ = saved.x := Option.some.inj (holds 2 (by decide))
  have a : _ = saved.a := Option.some.inj (holds 3 (by decide))
  have cc : _ = saved.cc ||| ~~~Flag.mask := Option.some.inj (holds 4 (by decide))
  rw [rti_cpu lies, low, high, x, a, cc, Flag.cut_stacked range.cc, range.join_stacked,
    range.slot_zero]
  exact ⟨rfl, rfl, rfl, rfl, rfl⟩

/-- A turn of the processor in which it meets `RTI` puts them back as well. -/
theorem HoldsFrame.resumes_turn {saved : Cpu} {device : Device} (holds : device.HoldsFrame saved)
    (range : saved.InRange) (lies : device.cpu.sp = Cpu.slot saved.sp 5)
    (running : device.cpu.state = .running) (meets : device.nextInstruction = .rti) :
    saved.Resumes (runProcessor device).2.cpu := by
  obtain ⟨memory, cpu⟩ := fetch_core device
  have fetched : (fetch device).2.HoldsFrame saved := by
    unfold HoldsFrame
    rw [memory]
    exact holds
  have back := fetched.resumes range ((congrArg Cpu.sp cpu).trans lies)
  rw [runProcessor_running running, meets]
  dsimp only
  rw [charge_cpu]
  exact back.addTicks _

end Device

/-- From any device with the stack pointer and the frame of the entry, `RTI` puts back what was
saved. -/
theorem Entered.resumes {saved : Cpu} {before after later : Device}
    (entered : Entered saved before after) (range : saved.InRange)
    (lies : later.cpu.sp = after.cpu.sp)
    (bytes : ∀ depth < 5, later.memory.read (Cpu.slot saved.sp depth) =
      after.memory.read (Cpu.slot saved.sp depth)) :
    saved.Resumes (perform .rti later).2.cpu ∧
      (later.cpu.state = .running → later.nextInstruction = .rti →
        saved.Resumes (runProcessor later).2.cpu) := by
  have holds : later.HoldsFrame saved := by
    intro depth within
    rw [bytes depth within]
    exact entered.holdsFrame range depth within
  have place := lies.trans entered.sp
  exact ⟨holds.resumes range place, holds.resumes_turn range place⟩

/-! ## The way there and back -/

/-- The processor leaves a program, for an interrupt or for `SWI`, and comes back to it by `RTI`. For
every part, and with the stack pointer at any place of the ring:

* leaving changes no byte of memory but the five slots of the frame, all of them on the stack;
* it moves the stack pointer five places down, and masks interrupts;
* on any device with that stack pointer and those five bytes, however it came about and whatever
  else is on it, `RTI` puts back the program counter, accumulator, index register, condition codes
  and stack pointer, as an instruction and as a whole turn of the processor. The program goes on
  where it was, or after the `SWI`. -/
theorem Interruption.undone_by_rti (interruption : Interruption) {device : Device}
    (range : device.CpuInRange) (occurs : interruption.Occurs device) :
    let sp := device.cpu.sp
    let entered := (interruption.enter device).2
    (∀ address, (∀ depth < 5, address ≠ Cpu.slot sp depth) →
        entered.memory.read address = device.memory.read address) ∧
      (∀ depth, 0x00C0 ≤ Cpu.slot sp depth ∧ Cpu.slot sp depth ≤ 0x00FF) ∧
      entered.cpu.sp = Cpu.slot sp 5 ∧
      entered.cpu.flag .interruptMask = true ∧
      ∀ later : Device, later.cpu.sp = entered.cpu.sp →
        (∀ depth < 5, later.memory.read (Cpu.slot sp depth) =
          entered.memory.read (Cpu.slot sp depth)) →
        (interruption.saved device.cpu).Resumes (perform .rti later).2.cpu ∧
          (later.cpu.state = .running → later.nextInstruction = .rti →
            (interruption.saved device.cpu).Resumes (runProcessor later).2.cpu) := by
  intro sp entered
  have left := interruption.entered range occurs
  have inside := interruption.saved_inRange range
  have same : (interruption.saved device.cpu).sp = sp := interruption.saved_sp device.cpu
  refine ⟨fun address off => left.read_off inside ?_, Cpu.slot_bounds sp, ?_, left.masked,
    fun later lies bytes => left.resumes inside lies ?_⟩
  · rw [same]
    exact off
  · rw [← same]
    exact left.sp
  · rw [same]
    exact bytes

/-- A part that meets `SWI` with room for three bytes above the end of the ring. -/
def Device.calling : Device :=
  { Device.new .c8 4000000 with
    cpu := { Cpu.initial with pc := 0x0060, a := 0x11, x := 0x22, cc := 0x06, sp := 0x00C2 }
    memory := Memory.zero.write 0x0060 0x83 }

/-- The frame wraps from one end of the ring to the other, and a routine spoils the registers. -/
theorem Interruption.undone_by_rti_after_wrap :
    let entered := (Interruption.software.enter .calling).2
    let later := { entered with cpu := { entered.cpu with a := 0x77, x := 0x88, cc := 0x1F } }
    let back := (perform .rti later).2.cpu
    Device.calling.CpuInRange ∧ Interruption.software.Occurs .calling ∧
      entered.cpu.sp = 0x00FD ∧
      entered.memory.read 0x00FF = 0x11 ∧
      entered.memory.read 0x0060 = 0x83 ∧
      back.pc = 0x0061 ∧ back.a = 0x11 ∧ back.x = 0x22 ∧ back.cc = 0x06 ∧ back.sp = 0x00C2 := by
  intro entered later back
  have range : Device.calling.CpuInRange := ⟨by decide, by decide, by decide, by decide⟩
  have occurs : Interruption.software.Occurs .calling := ⟨rfl, by decide +kernel⟩
  obtain ⟨off, -, sp, -, returns⟩ := Interruption.software.undone_by_rti range occurs
  have resumed := (returns later rfl fun _ _ => rfl).1
  have code : entered.memory.read 0x0060 = Device.calling.memory.read 0x0060 :=
    off 0x0060 (by decide)
  refine ⟨range, occurs, sp.trans (by decide), by decide +kernel, code.trans (by decide +kernel),
    resumed.pc.trans (by decide), resumed.a, resumed.x, resumed.cc, resumed.sp⟩

end M68HC05
