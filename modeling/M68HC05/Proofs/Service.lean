import M68HC05.Proofs.CpuRange
import M68HC05.Proofs.Writes

/-!
The service of interrupts. Nothing but an edge of the external line, its service and a reset touches
the edge that is latched, and nothing but a service is acknowledged: accesses, instructions and time
leave what the interrupt controller has to show as it is (`Device.Controller`). A service that is
due is made as `Served` says (`Device.served`).
-/

namespace M68HC05

open M68HC05.Action

/-! ## Acknowledgements -/

/-- The line whose service a signal acknowledges. -/
def Signal.acknowledged? : Signal → Option InterruptLine
  | acknowledge line => some line
  | _ => none

/-- The acknowledgements that the board has heard, in order. -/
def Bench.acknowledged (bench : Bench) : List InterruptLine :=
  (bench.history.filterMap Signal.acknowledged?).reverse

theorem Bench.acknowledged_add {bench : Bench} {entry : Entry}
    (silent : ∀ line, entry ≠ .signal (.acknowledge line)) :
    (bench.add entry).acknowledged = bench.acknowledged := by
  cases entry with
  | remark text => rfl
  | signal sent =>
    have other : sent.acknowledged? = none := by
      cases sent with
      | acknowledge line => exact absurd rfl (silent line)
      | _ => rfl
    unfold Bench.add
    dsimp only
    split
    · rw [Bench.acknowledged, List.filterMap_cons_none other]
      rfl
    · rfl

theorem Bench.acknowledged_add_acknowledge {bench : Bench} (wired : bench.acknowledgeWired = true)
    (line : InterruptLine) : (bench.add (.signal (.acknowledge line))).acknowledged =
      bench.acknowledged ++ [line] := by
  unfold Bench.add
  dsimp only
  have hears : bench.hears (.acknowledge line) = true := wired
  have heard : (Signal.acknowledge line).acknowledged? = some line := rfl
  rw [if_pos hears, Bench.acknowledged, List.filterMap_cons_some heard, List.reverse_cons]
  rfl

/-- The wiring is for the host to change. -/
theorem Bench.acknowledgeWired_add (bench : Bench) (entry : Entry) :
    (bench.add entry).acknowledgeWired = bench.acknowledgeWired := by
  cases entry with
  | remark text => rfl
  | signal sent =>
    unfold Bench.add
    dsimp only
    split
    · rfl
    · rfl

theorem Cpu.flag_setFlag (cpu : Cpu) (flag : Flag) (value : Bool) :
    (cpu.setFlag flag value).flag flag = value := by
  have single : flag.bit ≠ 0 := by
    cases flag with
    | _ => decide
  unfold setFlag Cpu.flag
  cases value with
  | false =>
    rw [if_neg Bool.false_ne_true, UInt8.and_assoc, UInt8.not_and_self, UInt8.and_zero]
    rfl
  | true =>
    rw [if_pos rfl, or_and_right8, UInt8.and_self]
    exact decide_eq_true fun none => single (UInt8.or_eq_zero_iff.mp none).2

/-- Time raises flags of the timer and clears none. -/
theorem Timer.requests_advance {timer : Timer} (requests : timer.requests = true) (cycles : Nat) :
    (timer.advance cycles).next.requests = true := by
  have before : timer.control &&& timer.status &&& statusMask ≠ 0 := of_decide_eq_true requests
  refine decide_eq_true fun none => before ?_
  change timer.control &&& (timer.status ||| timer.raised cycles) &&& statusMask = 0 at none
  rw [and_or_left8, or_and_right8, UInt8.or_eq_zero_iff] at none
  exact none.1

namespace Device

/-! ## What the interrupt controller has to show -/

/-- An edge of the external line waits to be served. -/
def latched (device : Device) : Bool :=
  device.pending &&& InterruptLine.external.bit ≠ 0

/-- The latched edge, and what the board hears of services. -/
structure Controller where
  latched : Bool
  wired : Bool
  acknowledged : List InterruptLine

/-- The interrupt controller of a device. -/
def controller (device : Device) : Controller where
  latched := device.latched
  wired := device.bench.acknowledgeWired
  acknowledged := device.bench.acknowledged

/-- The timer's request leaves the external line's bit alone. -/
theorem mirrored_external_bit (pending : UInt16) (requests : Bool) :
    mirrored pending requests &&& InterruptLine.external.bit =
      pending &&& InterruptLine.external.bit := by
  unfold mirrored
  cases requests with
  | false =>
    have apart : ~~~InterruptLine.timer.bit &&& InterruptLine.external.bit =
        InterruptLine.external.bit := by decide
    rw [if_neg Bool.false_ne_true, UInt16.and_assoc, apart]
  | true =>
    have apart : InterruptLine.timer.bit &&& InterruptLine.external.bit = 0 := by decide
    rw [if_pos rfl, or_and_right16, apart, UInt16.or_zero]

theorem controller_add (device : Device) {entry : Entry}
    (silent : ∀ line, entry ≠ .signal (.acknowledge line)) :
    controller { device with bench := device.bench.add entry } = device.controller := by
  unfold controller
  dsimp only
  rw [Bench.acknowledgeWired_add, Bench.acknowledged_add silent]
  rfl

theorem controller_observe (address : UInt16) (made : WatchKind) (byte : UInt8)
    (previous : Option UInt8) :
    Moves (Same controller) (observe address made byte previous) := by
  intro device
  have reports : (device.watches.observe address made byte previous).report = [] ∨
      ∃ text, (device.watches.observe address made byte previous).report = [.remark text] := by
    unfold WatchList.observe
    dsimp only
    split
    · exact .inr ⟨_, rfl⟩
    · exact .inl rfl
  change controller { device with
    watches := _
    bench := device.bench.record (device.watches.observe address made byte previous).report } = _
  rcases reports with silent | ⟨text, remarked⟩
  · rw [silent]
    rfl
  · have silent : ∀ line, Entry.remark text ≠ .signal (.acknowledge line) :=
      fun _ => Entry.noConfusion
    rw [remarked]
    exact device.controller_add silent

theorem controller_accessFlow : AccessFlow (Same controller) where
  toFlow := Same.flow controller
  ports _ _ := rfl
  timer _ _ := rfl
  watchdog _ _ := rfl
  entry device _ routine := device.controller_add routine.unacknowledged
  refresh device := by
    rw [refreshTimerRequest_apply]
    unfold Same controller latched
    dsimp only
    rw [mirrored_external_bit]
  observeRead address byte := controller_observe address .read byte none
  cleared device := device.controller_add fun _ => Entry.noConfusion

/-- Instructions leave the interrupt controller alone. -/
theorem controller_programFlow : ProgramFlow (Same controller) where
  toFlow := Same.flow controller
  cpu _ _ _ := rfl
  remark := controller_accessFlow.remark
  read := controller_accessFlow.read
  write address byte := controller_accessFlow.write address byte
    (fun _ => controller_observe _ .write byte _) fun _ => rfl

theorem controller_charge (cycles : Nat) : Moves (Same controller) (charge cycles) :=
  controller_accessFlow.charge cycles (fun _ => rfl) fun _ => rfl

/-- A reset drops the edge and is not acknowledged. -/
theorem controller_reset (device : Device) :
    (reset device).2.controller = { device.controller with latched := false } := by
  have flow := controller_accessFlow.toFlow
  have rest : Moves (Same controller) (do
      latchMaskOption
      refreshTimerRequest
      jumpThrough resetVector) :=
    flow.bind controller_accessFlow.latchMaskOption fun _ =>
      flow.bind controller_accessFlow.refresh fun _ =>
        controller_programFlow.jumpThrough resetVector
  let remarked := (remark (.deviceReset device.variant) device).2
  let cleared : Device := { remarked with
    cpu := remarked.cpu.reset
    pending := 0
    resetDue := false
    ports := remarked.ports.map Port.reset
    timer := remarked.timer.reset
    watchdog := remarked.watchdog.reset }
  have remarks : remarked.controller = device.controller :=
    controller_accessFlow.remark (.deviceReset device.variant) Remark.noConfusion device
  have unlatched : cleared.latched = false := by
    change decide ((0 : UInt16) &&& InterruptLine.external.bit ≠ 0) = false
    decide
  have dropped : cleared.controller = { device.controller with latched := false } := by
    rw [← remarks, ← unlatched]
    rfl
  exact (rest cleared).trans dropped

/-! ## Taking an interrupt -/

/-- A read of ROM. -/
theorem read_rom {device : Device} {address offset : UInt16}
    (rom : device.variant.addressMap.reader? (busAddress address) = some (.rom, offset)) :
    Device.read address .program device =
      (device.memory.read (busAddress address),
        (observe (busAddress address) .read (device.memory.read (busAddress address)) none
          device).2) := by
  unfold Device.read
  rw [bind_apply, get_apply]
  dsimp only
  rw [rom]
  rfl

/-- The vectors of interrupts lie in ROM on every part. -/
theorem vector_rom (variant : Variant) (line : InterruptLine) :
    (∃ offset, variant.addressMap.reader? (busAddress line.vector) = some (.rom, offset)) ∧
      ∃ offset, variant.addressMap.reader? (busAddress (line.vector + 1)) = some (.rom, offset) := by
  cases variant with
  | c4 =>
    cases line with
    | external => exact ⟨⟨_, rfl⟩, ⟨_, rfl⟩⟩
    | timer => exact ⟨⟨_, rfl⟩, ⟨_, rfl⟩⟩
  | c8 =>
    cases line with
    | external => exact ⟨⟨_, rfl⟩, ⟨_, rfl⟩⟩
    | timer => exact ⟨⟨_, rfl⟩, ⟨_, rfl⟩⟩
  | c8a =>
    cases line with
    | external => exact ⟨⟨_, rfl⟩, ⟨_, rfl⟩⟩
    | timer => exact ⟨⟨_, rfl⟩, ⟨_, rfl⟩⟩

/-- The address that a vector holds. -/
def vectorTarget (device : Device) (line : InterruptLine) : UInt16 :=
  busAddress (joinBytes (device.memory.read line.vector) (device.memory.read (line.vector + 1)))

/-- Going on through a vector in ROM changes the program counter. Only the watch list and the bench
take note of the two reads. -/
theorem jumpThrough_rom {vector : UInt16} (device : Device)
    (high : ∃ offset, device.variant.addressMap.reader? (busAddress vector) = some (.rom, offset))
    (low : ∃ offset,
      device.variant.addressMap.reader? (busAddress (vector + 1)) = some (.rom, offset)) :
    ∃ watches bench, (jumpThrough vector device).2 = { device with
      cpu := { device.cpu with
        pc := busAddress (joinBytes (device.memory.read (busAddress vector))
          (device.memory.read (busAddress (vector + 1)))) }
      watches
      bench } := by
  obtain ⟨_, atHigh⟩ := high
  obtain ⟨_, atLow⟩ := low
  let observed := (observe (busAddress vector) .read
    (device.memory.read (busAddress vector)) none device).2
  have second : read (vector + 1) .program observed = _ := read_rom atLow
  unfold jumpThrough readWord
  simp only [bind_apply, pure_apply]
  rw [read_rom atHigh]
  dsimp only
  rw [second]
  exact ⟨_, _, rfl⟩

/-- The vectors of interrupts are addresses as the bus carries them. -/
theorem busAddress_vector (line : InterruptLine) : busAddress line.vector = line.vector ∧
    busAddress (line.vector + 1) = line.vector + 1 := by
  cases line with
  | external => decide
  | timer => decide

/-- Going on through the vector of an interrupt changes the program counter and leaves the timer
alone. -/
theorem jumpThrough_vector (line : InterruptLine) (device : Device) :
    (jumpThrough line.vector device).2.timer = device.timer ∧
      (jumpThrough line.vector device).2.cpu =
        { device.cpu with pc := device.vectorTarget line } := by
  obtain ⟨high, low⟩ := vector_rom device.variant line
  have addresses := busAddress_vector line
  obtain ⟨watches, bench, same⟩ := jumpThrough_rom device high low
  rw [same, addresses.1, addresses.2]
  exact ⟨rfl, rfl⟩

/-- A push reaches the memory only, as long as the stack pointer is in its range. -/
theorem push_kept (byte : UInt8) : Moves
    (fun before after => before.CpuInRange →
      after.CpuInRange ∧ after.timer = before.timer ∧ after.pending = before.pending)
    (push byte) := by
  intro device range
  refine ⟨CpuInRange.push byte device range, ?_⟩
  have inside : inRam (busAddress device.cpu.sp) = true := by
    have floor := range.floor
    have top := range.top
    rw [inRam_iff, toNat_busAddress]
    unfold addressSpace
    omega
  have goes := (device.variant.goes_to_ram inside).2
  let observed := (observe (busAddress device.cpu.sp) .write byte
    (some (device.memory.read (busAddress device.cpu.sp))) device).2
  have stored : passWrite (busAddress device.cpu.sp) byte .program observed =
      store (busAddress device.cpu.sp) byte observed := by
    have there : observed.variant.addressMap.writer? (busAddress device.cpu.sp) = _ := goes
    unfold passWrite
    rw [bind_apply, get_apply]
    dsimp only
    rw [there]
    rfl
  unfold push write
  simp only [bind_apply, get_apply, if_true]
  rw [stored]
  exact ⟨rfl, rfl⟩

theorem framed_cpu (device : Device) : device.framed.cpu =
    device.cpu.pushed.pushed.pushed.pushed.pushed.setFlag .interruptMask true := by
  rw [← pushFrame_cpu]
  rfl

/-- Saving a frame leaves the timer and the pending mask alone. -/
theorem framed_kept {device : Device} (range : device.CpuInRange) :
    device.framed.timer = device.timer ∧ device.framed.pending = device.pending := by
  have flow : Flow fun before after : Device => before.CpuInRange →
      after.CpuInRange ∧ after.timer = before.timer ∧ after.pending = before.pending := {
    refl := fun _ range => ⟨range, rfl, rfl⟩
    trans := by
      intro a b c first second range
      obtain ⟨middle, timer, pending⟩ := first range
      obtain ⟨final, lateTimer, latePending⟩ := second middle
      exact ⟨final, lateTimer.trans timer, latePending.trans pending⟩ }
  have kept := (flow.pushFrame push_kept device range).2
  unfold framed
  generalize (pushFrame device).2 = pushed at kept ⊢
  exact kept

/-- Saving a frame writes to RAM only, as all programs do. -/
theorem framed_memory (device : Device) : ∃ writes,
    device.framed.memory = device.memory.takeAll writes := by
  exact ⟨_, (Wrote.framed device).memory⟩

theorem framed_controller (device : Device) : device.framed.controller = device.controller := by
  have kept : (pushFrame device).2.controller = device.controller :=
    controller_programFlow.pushFrame device
  unfold framed
  generalize (pushFrame device).2 = pushed at kept ⊢
  exact kept

theorem signalled_timer (line : InterruptLine) (device : Device) :
    (device.signalled line).timer = device.timer :=
  rfl

/-- Services leave the vectors alone. -/
theorem signalled_target (line : InterruptLine) (device : Device) :
    (device.signalled line).vectorTarget line = device.vectorTarget line :=
  rfl

/-- Saving a frame leaves all but RAM as it is. -/
theorem framed_read (device : Device) {address : UInt16} (outside : inRam address = false) :
    device.framed.memory.read address = device.memory.read address := by
  obtain ⟨writes, memory⟩ := device.framed_memory
  rw [memory]
  exact Memory.read_takeAll_outside _ _ outside

/-- The vectors of interrupts lie outside RAM. -/
theorem vector_outside_ram (line : InterruptLine) :
    inRam line.vector = false ∧ inRam (line.vector + 1) = false := by
  cases line with
  | external => decide
  | timer => decide

theorem framed_target (line : InterruptLine) (device : Device) :
    device.framed.vectorTarget line = device.vectorTarget line := by
  obtain ⟨high, low⟩ := vector_outside_ram line
  unfold vectorTarget
  rw [framed_read device high, framed_read device low]

theorem signalled_controller (line : InterruptLine) (device : Device) :
    (device.signalled line).latched = (line != .external && device.latched) ∧
      (device.signalled line).bench.acknowledgeWired = device.bench.acknowledgeWired ∧
      (device.bench.acknowledgeWired = true →
        (device.signalled line).bench.acknowledged = device.bench.acknowledged ++ [line]) := by
  have wired := device.bench.acknowledgeWired_add (.remark (.interruptTaken line))
  refine ⟨?_, (Bench.acknowledgeWired_add _ _).trans wired, fun listening => ?_⟩
  · cases line with
    | external =>
      have used : device.pending &&& ~~~InterruptLine.external.bit &&&
          InterruptLine.external.bit = 0 := by
        rw [UInt16.and_assoc, UInt16.not_and_self, UInt16.and_zero]
      unfold latched signalled
      dsimp only
      rw [if_pos rfl, used]
      rfl
    | timer => rfl
  · exact Bench.acknowledged_add_acknowledge (wired.trans listening) line

/-- Taking an interrupt uses up an edge of the external line, and the board hears of it. -/
theorem entered_controller (line : InterruptLine) (device : Device) :
    (device.entered line).latched = (line != .external && device.latched) ∧
      (device.entered line).bench.acknowledgeWired = device.bench.acknowledgeWired ∧
      (device.bench.acknowledgeWired = true →
        (device.entered line).bench.acknowledged =
          device.bench.acknowledged ++ [line]) := by
  have jumped := Controller.mk.inj
    (controller_programFlow.jumpThrough line.vector (device.framed.signalled line))
  have framed := Controller.mk.inj device.framed_controller
  have books := signalled_controller line device.framed
  unfold entered
  generalize (jumpThrough line.vector (device.framed.signalled line)).2 = after at jumped ⊢
  rw [← jumped.1, ← jumped.2.1, ← jumped.2.2, framed.1, framed.2.1, framed.2.2] at books
  exact books

/-- Taking an interrupt masks further ones, wakes the processor up and goes on where the vector
points. -/
theorem entered_cpu (line : InterruptLine) (device : Device) :
    (device.entered line).cpu =
      { device.cpu.pushed.pushed.pushed.pushed.pushed.setFlag .interruptMask true with
        pc := device.vectorTarget line
        state := .running } := by
  have jumped := (jumpThrough_vector line (device.framed.signalled line)).2
  rw [signalled_target, framed_target] at jumped
  rw [← framed_cpu]
  unfold entered
  generalize (jumpThrough line.vector (device.framed.signalled line)).2 = after at jumped ⊢
  exact congrArg (fun cpu : Cpu => { cpu with state := .running }) jumped

theorem entered_timer (line : InterruptLine) {device : Device}
    (range : device.CpuInRange) : (device.entered line).timer = device.timer := by
  have jumped := (jumpThrough_vector line (device.framed.signalled line)).1
  rw [signalled_timer, (framed_kept range).1] at jumped
  unfold entered
  generalize (jumpThrough line.vector (device.framed.signalled line)).2 = after at jumped ⊢
  exact jumped

/-! ## Services -/

theorem latched_iff (device : Device) :
    device.latched = true ↔ device.pending &&& InterruptLine.external.bit ≠ 0 :=
  decide_eq_true_iff

/-- Nothing is pending when neither line is. -/
theorem pendingMask_iff (device : Device) : device.pending &&& pendingMask = 0 ↔
    device.latched = false ∧ device.pending &&& InterruptLine.timer.bit = 0 := by
  rw [pendingMask, and_or_left16, UInt16.or_eq_zero_iff, ← Bool.not_eq_true, latched_iff, Ne,
    Decidable.not_not]

/-- What the processor finds when it looks for an interrupt: what is pending, unless it is masked,
and the external line first. -/
theorem interruptDue_eq (device : Device) : device.interruptDue? =
    if device.cpu.flag .interruptMask = true then none
    else if device.latched = true then some .external
    else if device.pending &&& InterruptLine.timer.bit ≠ 0 then some .timer
    else none := by
  have ownVector : device.variant.vectorsExternalLine = true := rfl
  have nothing := device.pendingMask_iff
  have edge := device.latched_iff
  unfold interruptDue?
  rw [ownVector]
  by_cases masked : device.cpu.flag .interruptMask = true
  · simp [masked]
  · by_cases latched : device.latched = true
    · have some : device.pending &&& pendingMask ≠ 0 := by
        intro none
        rw [(nothing.mp none).1] at latched
        exact Bool.false_ne_true latched
      simp [masked, latched, some, edge.mp latched]
    · by_cases timer : device.pending &&& InterruptLine.timer.bit = 0
      · have none := nothing.mpr ⟨Bool.eq_false_iff.mpr latched, timer⟩
        simp [latched, timer, none]
      · have some : device.pending &&& pendingMask ≠ 0 := fun none => timer (nothing.mp none).2
        have low : device.pending &&& InterruptLine.external.bit = 0 :=
          Decidable.not_not.mp fun set => latched (edge.mpr set)
        simp [masked, latched, timer, some, low]

theorem of_interruptDue {device : Device} {line : InterruptLine}
    (due : device.interruptDue? = some line) :
    device.cpu.flag .interruptMask = false ∧ (line = .external ↔ device.latched = true) ∧
      device.pending &&& line.bit ≠ 0 := by
  rw [interruptDue_eq] at due
  split at due
  · cases due
  · rename_i unmasked
    refine ⟨Bool.eq_false_iff.mpr unmasked, ?_⟩
    split at due
    · rename_i latched
      cases due
      exact ⟨⟨fun _ => latched, fun _ => rfl⟩, device.latched_iff.mp latched⟩
    · rename_i unlatched
      split at due
      · rename_i timer
        cases due
        have apart : InterruptLine.timer = .external ↔ device.latched = true :=
          ⟨fun same => InterruptLine.noConfusion same, fun latched => absurd latched unlatched⟩
        exact ⟨apart, timer⟩
      · cases due

/-- The external line is served whenever it may be. -/
theorem interruptDue_external_iff (device : Device) : device.interruptDue? = some .external ↔
    device.cpu.flag .interruptMask = false ∧ device.pending &&& InterruptLine.external.bit ≠ 0 := by
  constructor
  · intro due
    obtain ⟨unmasked, -, pending⟩ := of_interruptDue due
    exact ⟨unmasked, pending⟩
  · rintro ⟨unmasked, pending⟩
    rw [interruptDue_eq, unmasked, device.latched_iff.mpr pending]
    rfl

/-- The timer is served whenever it may be and the external line does not go before it. -/
theorem interruptDue_timer_iff (device : Device) : device.interruptDue? = some .timer ↔
    device.cpu.flag .interruptMask = false ∧ device.pending &&& InterruptLine.external.bit = 0 ∧
      device.pending &&& InterruptLine.timer.bit ≠ 0 := by
  constructor
  · intro due
    obtain ⟨unmasked, priority, pending⟩ := of_interruptDue due
    refine ⟨unmasked, Decidable.not_not.mp fun edge => ?_, pending⟩
    exact InterruptLine.noConfusion (priority.mpr (device.latched_iff.mpr edge))
  · rintro ⟨unmasked, free, pending⟩
    have unlatched : ¬ device.latched = true := fun edge => device.latched_iff.mp edge free
    rw [interruptDue_eq, unmasked, if_neg Bool.false_ne_true, if_neg unlatched, if_pos pending]

/-- An interrupt is served: when it may be, in which order, and with what effect. -/
structure Served (line : InterruptLine) (before after : Device) : Prop where
  unmasked : before.cpu.flag .interruptMask = false
  pending : before.pending &&& line.bit ≠ 0
  /-- an edge of the external line goes before the timer -/
  priority : line = .external ↔ before.latched = true
  vector : after.cpu.pc = before.vectorTarget line
  masked : after.cpu.flag .interruptMask = true
  running : after.cpu.state = .running
  /-- no edge is left over -/
  cleared : after.latched = false
  /-- the timer's bit outlives the service, and follows the flags of the timer -/
  kept : before.pending &&& InterruptLine.timer.bit ≠ 0 →
    after.pending &&& InterruptLine.timer.bit ≠ 0
  follows : after.pending &&& InterruptLine.timer.bit ≠ 0 ↔ after.timer.requests = true
  /-- the board hears of it once -/
  acknowledged : before.bench.acknowledgeWired = true →
    after.bench.acknowledged = before.bench.acknowledged ++ [line]

theorem charge_timer (cycles : Nat) (device : Device) :
    (charge cycles device).2.timer = (device.timer.advance cycles).next := by
  unfold charge
  simp only [bind_apply, get_apply, Action.ite_apply]
  split
  · rfl
  · rfl

/-- An interrupt that is due is served. -/
theorem served {device : Device} {line : InterruptLine} (range : device.CpuInRange)
    (mirrors : device.Mirrors) (due : device.interruptDue? = some line) :
    Served line device (serveInterrupt device).2 := by
  obtain ⟨unmasked, priority, pending⟩ := of_interruptDue due
  have cpu := entered_cpu line device
  have timer := entered_timer line range
  obtain ⟨edge, -, heard⟩ := entered_controller line device
  rw [serveInterrupt_due due]
  generalize device.entered line = entered at cpu timer edge heard ⊢
  have quiet := Controller.mk.inj (controller_charge interruptCycles entered)
  have registers := charge_cpu interruptCycles entered
  have follows := (mirrors_charge interruptCycles entered).timer_bit
  have flags := charge_timer interruptCycles entered
  rw [timer] at flags
  rw [cpu] at registers
  generalize (charge interruptCycles entered).2 = after at quiet registers follows flags ⊢
  exact {
    unmasked
    pending
    priority
    vector := by rw [registers]; rfl
    masked := by
      rw [registers]
      exact Cpu.flag_setFlag _ _ _
    running := by rw [registers]; rfl
    cleared := by
      rw [quiet.1, edge]
      cases line with
      | external => rfl
      | timer => exact Bool.eq_false_iff.mpr fun latched => nomatch priority.mpr latched
    kept := by
      intro set
      rw [follows, flags]
      exact Timer.requests_advance (mirrors.timer_bit.mp set) _
    follows
    acknowledged := by
      intro wired
      rw [quiet.2.2, heard wired] }

/-! ## The order of a service

The line is looked up before the frame is saved. Looked up afterwards, it could be gone: a frame
that is saved over the registers of the timer may take back the request. -/

/-- The line that is pending, the external one first. -/
def pendingLine? (device : Device) : Option InterruptLine :=
  if device.variant.vectorsExternalLine && device.pending &&& InterruptLine.external.bit ≠ 0
  then some .external
  else if device.pending &&& InterruptLine.timer.bit ≠ 0 then some .timer
  else none

/-- The service of interrupts by a processor that looks for the line once the frame is saved. There
is no outcome if no line is pending then. -/
def serveFramed? (device : Device) : Option (Nat × Device) :=
  if device.pending &&& pendingMask = 0 || device.cpu.flag .interruptMask then some (0, device)
  else device.framed.pendingLine?.map fun line =>
    (interruptCycles, (charge interruptCycles (device.entered line)).2)

/-- An interrupt that is not masked is due if its line is the one that is pending. -/
theorem interruptDue_unmasked {device : Device}
    (unmasked : device.cpu.flag .interruptMask = false) :
    device.interruptDue? = device.pendingLine? := by
  have ownVector : device.variant.vectorsExternalLine = true := rfl
  rw [interruptDue_eq, unmasked, if_neg Bool.false_ne_true]
  unfold pendingLine? latched
  rw [ownVector, Bool.true_and]

/-- As long as the stack pointer is in its range, it does not matter when the line is looked up, and
there is one to be found. -/
theorem serveFramed_eq {device : Device} (range : device.CpuInRange) :
    device.serveFramed? = some (serveInterrupt device) := by
  have found : device.framed.pendingLine? = device.pendingLine? := by
    unfold pendingLine?
    rw [(framed_kept range).2]
    rfl
  unfold serveFramed?
  by_cases idle : (device.pending &&& pendingMask = 0 || device.cpu.flag .interruptMask) = true
  · have due : device.interruptDue? = none := if_pos idle
    rw [if_pos idle, serveInterrupt_idle due]
  · obtain ⟨line, due⟩ : ∃ line, device.interruptDue? = some line := by
      unfold interruptDue?
      rw [if_neg idle]
      split
      · exact ⟨.external, rfl⟩
      · exact ⟨.timer, rfl⟩
    have unmasked := (of_interruptDue due).1
    rw [if_neg idle, serveInterrupt_due due, found, ← interruptDue_unmasked unmasked, due]
    rfl

end Device
end M68HC05
