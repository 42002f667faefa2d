import M68HC05.Proofs.Reset
import M68HC05.Proofs.WatchdogEvents
import M68HC05.Proofs.WellFormed
import M68HC05.Proofs.Writes

/-!
Timeouts of the programmable watchdog. A step charges cycles for the entry of an interrupt and for
the turn of the processor, and the watchdog may run out in either. Then the step ends with a reset,
and the reset keeps the timeout flag. What may lose it is the instruction in between: when the entry
lets the watchdog run out, the first instruction of the service is still run and clears the flag if
it reads the control register, which the trace shows (`Device.step_of_timeout`).
-/

namespace M68HC05

open M68HC05.Action

/-! ## The trace goes on -/

namespace Bench

theorem exists_add_trace (bench : Bench) (entry : Entry) :
    ∃ entries, (bench.add entry).trace = entries ++ bench.trace ∧
      ∀ added ∈ entries, added = entry := by
  cases entry with
  | remark text => exact ⟨[.remark text], rfl, fun _ => List.mem_singleton.mp⟩
  | signal sent =>
    unfold add
    dsimp only
    split
    · exact ⟨[.signal sent], rfl, fun _ => List.mem_singleton.mp⟩
    · exact ⟨[], rfl, fun _ member => (nomatch member)⟩

theorem exists_record_trace (bench : Bench) (report : List Entry) :
    ∃ entries, (bench.record report).trace = entries ++ bench.trace ∧
      ∀ added ∈ entries, added ∈ report := by
  induction report generalizing bench with
  | nil => exact ⟨[], rfl, fun _ => id⟩
  | cons entry report ih =>
    obtain ⟨first, added, same⟩ := exists_add_trace bench entry
    obtain ⟨later, recorded, reported⟩ := ih (bench.add entry)
    refine ⟨later ++ first, recorded.trans ?_, fun other member => ?_⟩
    · rw [added, List.append_assoc]
    · rcases List.mem_append.mp member with late | early
      · exact List.mem_cons_of_mem _ (reported other late)
      · exact List.mem_cons.mpr (.inl (same other early))

end Bench

namespace Device

variable {device : Device}

/-! ## Charges -/

/-- Cycles that are charged to a device. -/
structure Charge where
  device : Device
  cycles : Nat

/-- The programmable watchdog runs out in the charged cycles. -/
def Charge.RunsOut (charge : Charge) : Prop :=
  charge.device.watchdog.programmableRunsOut charge.device.variant.watchdogs charge.cycles = true

instance (charge : Charge) : Decidable charge.RunsOut :=
  inferInstanceAs (Decidable (_ = true))

/-- The charge for the entry of an interrupt, if one is due. -/
def entryCharge? (device : Device) : Option Charge :=
  device.interruptDue?.map fun line => ⟨device.entered line, interruptCycles⟩

/-- The charge for a turn of the processor. A stopped processor has no clock to charge. -/
def turnCharge? (device : Device) : Option Charge :=
  match device.cpu.state with
  | .running =>
    some ⟨(perform device.nextInstruction (fetch device).2).2, device.nextInstruction.cycles⟩
  | .wait => some ⟨device, idleCycles⟩
  | .stop => none

/-- The watchdog runs out while an interrupt is entered. -/
def EntryRunsOut (device : Device) : Prop :=
  ∃ charge ∈ device.entryCharge?, charge.RunsOut

/-- The watchdog runs out in the turn of the processor in a step. -/
def TurnRunsOut (device : Device) : Prop :=
  ∃ charge ∈ (serveInterrupt device).2.turnCharge?, charge.RunsOut

/-- The timeout flag of the programmable watchdog is up. -/
def TimedOut (device : Device) : Prop :=
  device.watchdog.control &&& Watchdog.timeoutFlag ≠ 0

theorem charge_watchdog (cycles : Nat) (device : Device) :
    (charge cycles device).2.watchdog =
      (device.watchdog.advance device.variant.watchdogs cycles).next := by
  unfold charge
  simp only [bind_apply, get_apply, Action.ite_apply]
  split
  · rfl
  · rfl

theorem charge_resetDue (cycles : Nat) (device : Device) :
    (charge cycles device).2.resetDue =
      ((device.watchdog.advance device.variant.watchdogs cycles).value || device.resetDue) := by
  unfold charge
  simp only [bind_apply, get_apply, Action.ite_apply]
  split
  · rename_i due
    have fired : (device.watchdog.advance device.variant.watchdogs cycles).value = true := due
    rw [fired]
    rfl
  · rename_i due
    have fired : (device.watchdog.advance device.variant.watchdogs cycles).value = false :=
      Bool.eq_false_iff.mpr due
    rw [fired]
    rfl

/-- A timeout raises the flag, and time never lowers it. -/
theorem timedOut_charge_iff (charge : Charge) :
    (Device.charge charge.cycles charge.device).2.TimedOut ↔
      charge.RunsOut ∨ charge.device.TimedOut := by
  unfold TimedOut
  rw [charge_watchdog]
  exact charge.device.watchdog.timeoutFlag_advance_iff _ charge.cycles

theorem resetDue_of_runsOut {charge : Charge} (out : charge.RunsOut) :
    (Device.charge charge.cycles charge.device).2.resetDue = true := by
  unfold Charge.RunsOut at out
  rw [charge_resetDue, Watchdog.advance]
  dsimp only
  rw [out]
  rfl

/-- An interrupt that is taken ends with its charge. -/
theorem serveInterrupt_of_charge {charge : Charge} (entry : device.entryCharge? = some charge) :
    (serveInterrupt device).2 = (Device.charge charge.cycles charge.device).2 := by
  obtain ⟨line, due, rfl⟩ := Option.map_eq_some_iff.mp entry
  rw [serveInterrupt_due due]

/-- A turn of the processor ends with its charge. -/
theorem runProcessor_of_charge {charge : Charge} (turn : device.turnCharge? = some charge) :
    (runProcessor device).2 = (Device.charge charge.cycles charge.device).2 := by
  unfold turnCharge? at turn
  split at turn
  · rename_i running
    cases turn
    rw [runProcessor_running running]
  · rename_i waiting
    cases turn
    rw [runProcessor_wait waiting]
  · cases turn

/-- What comes before the charge stays in every flow of programs. -/
theorem flow_turnCharge {T : Device → Device → Prop} (flow : ProgramFlow T) {charge : Charge}
    (turn : device.turnCharge? = some charge) : T device charge.device := by
  unfold turnCharge? at turn
  split at turn
  · cases turn
    exact flow.trans (flow.fetch device) (flow.perform device.nextInstruction _)
  · cases turn
    exact flow.refl device
  · cases turn

/-- A turn without a charge is one of a stopped processor. -/
theorem stopped_of_turnCharge?_none (turn : device.turnCharge? = none) :
    device.cpu.state = .stop := by
  unfold turnCharge? at turn
  split at turn
  · cases turn
  · cases turn
  · rename_i stopped
    exact stopped

/-! ## What is remarked of the flag -/

/-- The trace goes on, and nothing in it says that the timeout flag has been cleared. -/
def Unremarked (before after : Device) : Prop :=
  ∃ entries, after.bench.trace = entries ++ before.bench.trace ∧
    .remark .timeoutFlagCleared ∉ entries

/-- The trace goes on, and the timeout flag stays up exactly if nothing in it says that it has been
cleared. -/
def Noted (before after : Device) : Prop :=
  ∃ entries, after.bench.trace = entries ++ before.bench.trace ∧
    (after.TimedOut ↔ before.TimedOut ∧ .remark .timeoutFlagCleared ∉ entries)

namespace Unremarked

theorem flow : Flow Unremarked where
  refl _ := ⟨[], rfl, List.not_mem_nil⟩
  trans := by
    rintro a b c ⟨early, first, quiet⟩ ⟨late, second, silent⟩
    refine ⟨late ++ early, by rw [second, first, List.append_assoc], fun member => ?_⟩
    exact (List.mem_append.mp member).elim silent quiet

theorem record {before after : Device} {report : List Entry} (silent : Silent report)
    (bench : after.bench = before.bench.record report) : Unremarked before after := by
  obtain ⟨entries, trace, reported⟩ := before.bench.exists_record_trace report
  refine ⟨entries, (congrArg Bench.trace bench).trans trace, fun member => ?_⟩
  exact (silent _ (reported _ member)).uncleared rfl

theorem observe (address : UInt16) (made : WatchKind) (byte : UInt8) (previous : Option UInt8) :
    Moves Unremarked (observe address made byte previous) :=
  fun device => record (device.watches.silent_observe address made byte previous) rfl

theorem partFlow : PartFlow Unremarked where
  toFlow := flow
  ports _ _ := ⟨[], rfl, List.not_mem_nil⟩
  timer _ _ := ⟨[], rfl, List.not_mem_nil⟩
  watchdog _ _ := ⟨[], rfl, List.not_mem_nil⟩
  entry _ _ routine := record (Silent.cons routine Silent.nil) rfl
  refresh _ := ⟨[], rfl, List.not_mem_nil⟩
  observeRead address byte := observe address .read byte none

end Unremarked

namespace Noted

theorem flow : Flow Noted where
  refl _ := ⟨[], rfl, (and_iff_left List.not_mem_nil).symm⟩
  trans := by
    rintro a b c ⟨early, first, kept⟩ ⟨late, second, keeps⟩
    refine ⟨late ++ early, by rw [second, first, List.append_assoc], ?_⟩
    rw [keeps, kept, List.mem_append, not_or, and_right_comm, and_assoc]

/-- What leaves the flag alone and does not speak of it. -/
theorem of_kept {before after : Device} (unremarked : Unremarked before after)
    (kept : after.TimedOut ↔ before.TimedOut) : Noted before after := by
  obtain ⟨entries, trace, quiet⟩ := unremarked
  exact ⟨entries, trace, kept.trans (and_iff_left quiet).symm⟩

theorem of_same {before after : Device} (unremarked : Unremarked before after)
    (same : after.watchdog = before.watchdog) : Noted before after := by
  refine of_kept unremarked ?_
  unfold TimedOut
  rw [same]

/-- A program read of the control register clears the flag, and remarks it if the flag was up. -/
theorem readControl (offset address : UInt16) :
    Moves Noted (readHandler .watchdogControl offset address .program) := by
  intro device
  let after := (readHandler .watchdogControl offset address .program device).2
  have recorded : after.bench.trace =
      (device.bench.record (device.watchdog.readControl .program).report).trace := rfl
  have down : ¬ after.TimedOut := by
    change ¬ (device.watchdog.control &&& ~~~Watchdog.timeoutFlag) &&& Watchdog.timeoutFlag ≠ 0
    rw [UInt8.and_assoc, UInt8.not_and_self, UInt8.and_zero]
    exact not_not_intro rfl
  by_cases up : device.TimedOut
  · have report : (device.watchdog.readControl .program).report =
        [.remark .timeoutFlagCleared] := if_pos up
    rw [report] at recorded
    exact ⟨[.remark .timeoutFlagCleared], recorded,
      iff_of_false down fun kept => kept.2 List.mem_cons_self⟩
  · have report : (device.watchdog.readControl .program).report = [] := if_neg up
    rw [report] at recorded
    exact ⟨[], recorded, iff_of_false down fun kept => up kept.1⟩

theorem readHandler (handler : Handler) (offset address : UInt16) :
    Moves Noted (readHandler handler offset address .program) := by
  by_cases control : handler = .watchdogControl
  · rw [control]
    exact readControl offset address
  · have unremarked := Unremarked.partFlow.readHandler control offset address .program
    have same := watchdog_readHandler control offset address .program
    exact fun device => of_same (unremarked device) (same device)

/-- Programs cannot write the flag. -/
theorem writeControl (offset address : UInt16) (byte : UInt8) :
    Moves Noted (writeHandler .watchdogControl offset address byte .program) := by
  intro device
  have notRam : Handler.watchdogControl ≠ .ram := fun same => nomatch same
  refine of_kept (Unremarked.partFlow.writeHandler notRam offset address byte device) ?_
  change (device.watchdog.writeControl byte).next.control &&& Watchdog.timeoutFlag ≠ 0 ↔ _
  rw [device.watchdog.timeoutFlag_writeControl byte]
  rfl

theorem writeHandler (handler : Handler) (offset address : UInt16) (byte : UInt8) :
    Moves Noted (writeHandler handler offset address byte .program) := by
  by_cases ram : handler = .ram
  · rw [ram]
    exact fun device => flow.refl device
  · have unremarked := Unremarked.partFlow.writeHandler ram offset address byte
    cases handler with
    | watchdogControl => exact writeControl offset address byte
    | watchdogKey => exact fun device => of_kept (unremarked device) Iff.rfl
    | watchdogClear =>
      refine fun device => of_kept (unremarked device) ?_
      change (device.watchdog.writeClear byte).next.control &&& Watchdog.timeoutFlag ≠ 0 ↔ _
      unfold Watchdog.writeClear
      dsimp only
      split
      · exact Iff.rfl
      · exact Iff.rfl
    | _ => exact fun device => of_same (unremarked device) rfl

theorem programFlow : ProgramFlow Noted where
  toFlow := flow
  cpu device _ _ := flow.refl device
  remark text other device := of_same (Unremarked.partFlow.remark text other device) rfl
  read _ := Moves.read flow (fun _ _ _ _ => readHandler _ _ _) fun _ _ device =>
    of_same (Unremarked.observe _ _ _ _ device) rfl
  write _ byte := Moves.write flow (fun _ _ _ _ => writeHandler _ _ _ byte)
    fun _ _ device => of_same (Unremarked.observe _ _ _ _ device) rfl

end Noted

/-! ## A timeout asks for a reset -/

/-- Programs do not take a request for a reset back. -/
theorem resetDue_flow : ProgramFlow (Same resetDue) where
  toFlow := Same.flow resetDue
  cpu _ _ _ := rfl
  remark _ _ _ := rfl
  read address device := congrArg Frame.resetDue (frame_read address .program device)
  write address byte device := congrArg Frame.resetDue (frame_write address byte .program device)

theorem resetDue_charge (cycles : Nat) {device : Device} (due : device.resetDue = true) :
    (charge cycles device).2.resetDue = true := by
  rw [charge_resetDue, due, Bool.or_true]

theorem resetDue_runProcessor {device : Device} (due : device.resetDue = true) :
    (runProcessor device).2.resetDue = true := by
  rcases turn : device.turnCharge? with _ | charge
  · rw [runProcessor_stop (stopped_of_turnCharge?_none turn)]
    exact due
  · have same : charge.device.resetDue = device.resetDue := flow_turnCharge resetDue_flow turn
    rw [runProcessor_of_charge turn]
    exact resetDue_charge charge.cycles (same.trans due)

/-- After a turn of the processor the flag is up if the watchdog runs out in the turn, or if it was
up and the turn has not cleared it. -/
theorem timedOut_runProcessor_iff (device : Device) :
    ∃ entries, (runProcessor device).2.bench.trace = entries ++ device.bench.trace ∧
      ((runProcessor device).2.TimedOut ↔ (∃ charge ∈ device.turnCharge?, charge.RunsOut) ∨
        device.TimedOut ∧ .remark .timeoutFlagCleared ∉ entries) := by
  rcases turn : device.turnCharge? with _ | charge
  · rw [runProcessor_stop (stopped_of_turnCharge?_none turn)]
    refine ⟨[], rfl, ⟨fun up => .inr ⟨up, List.not_mem_nil⟩, fun either => ?_⟩⟩
    rcases either with ⟨_, member, -⟩ | kept
    · cases member
    · exact kept.1
  · obtain ⟨early, first, noted⟩ := flow_turnCharge Noted.programFlow turn
    obtain ⟨late, second, quiet⟩ := Unremarked.partFlow.charge charge.cycles
      (fun _ => ⟨[], rfl, List.not_mem_nil⟩) (fun _ => ⟨[], rfl, List.not_mem_nil⟩) charge.device
    rw [runProcessor_of_charge turn]
    refine ⟨late ++ early, by rw [second, first, List.append_assoc], ?_⟩
    rw [timedOut_charge_iff, noted]
    simp [quiet]

/-- The turn of the processor in a step clears the timeout flag: its part of the trace says so. -/
def TurnClearsFlag (device : Device) : Prop :=
  ∃ entries, device.turned.bench.trace = entries ++ (serveInterrupt device).2.bench.trace ∧
    .remark .timeoutFlagCleared ∈ entries

/-- A timeout asks for a reset, and its flag is up when the reset is made, unless the turn after the
entry of an interrupt clears it. -/
theorem turned_of_timeout (out : device.EntryRunsOut ∨ device.TurnRunsOut) :
    device.turned.resetDue = true ∧
      (device.turned.TimedOut ↔ device.TurnRunsOut ∨ ¬ device.TurnClearsFlag) := by
  obtain ⟨entries, trace, up⟩ := timedOut_runProcessor_iff (serveInterrupt device).2
  have cleared : device.TurnClearsFlag ↔ .remark .timeoutFlagCleared ∈ entries := by
    refine ⟨?_, fun member => ⟨entries, trace, member⟩⟩
    rintro ⟨others, same, member⟩
    rw [List.append_cancel_right (trace.symm.trans same)]
    exact member
  rw [cleared]
  rcases out with ⟨charge, entry, runsOut⟩ | turn
  · -- the turn after the entry still runs
    have served := serveInterrupt_of_charge entry
    have due : (serveInterrupt device).2.resetDue = true := by
      rw [served]
      exact resetDue_of_runsOut runsOut
    have entered : (serveInterrupt device).2.TimedOut := by
      rw [served]
      exact (timedOut_charge_iff charge).mpr (.inl runsOut)
    rw [and_iff_right entered] at up
    exact ⟨resetDue_runProcessor due, up⟩
  · refine ⟨?_, iff_of_true (up.mpr (.inl turn)) (.inl turn)⟩
    obtain ⟨charge, last, runsOut⟩ := turn
    unfold turned
    rw [runProcessor_of_charge last]
    exact resetDue_of_runsOut runsOut

theorem turned_resetTarget (device : Device) : device.turned.resetTarget = device.resetTarget := by
  have wrote := (Wrote.serveInterrupt device).trans (Wrote.runProcessor (serveInterrupt device).2)
  have memory : device.turned.memory = device.memory.takeAll device.stepWrites := wrote.memory
  unfold resetTarget
  rw [memory, Memory.read_takeAll_outside _ _ (by decide),
    Memory.read_takeAll_outside _ _ (by decide)]

/-- A reset keeps the timeout flag and disarms the watchdog. -/
theorem resetWatchdog_control (device : Device) :
    device.resetWatchdog.control = device.watchdog.control &&& Watchdog.timeoutFlag := by
  unfold resetWatchdog
  split
  · rfl
  · rfl

/-- A step in which the programmable watchdog runs out ends in the state after a reset: at the
address in the reset vector, with cleared registers, masked interrupts, an empty stack, and the
watchdog disarmed. The timeout flag is up then, but for one case: the watchdog runs out in the entry
of an interrupt only, and the turn after it clears the flag. -/
theorem step_of_timeout (out : device.EntryRunsOut ∨ device.TurnRunsOut) :
    let after := (step device).2
    (after.cpu.pc = device.resetTarget ∧ after.cpu.a = 0 ∧ after.cpu.x = 0 ∧
        after.cpu.cc = Flag.interruptMask.bit ∧ after.cpu.sp = 0x00FF ∧
        after.cpu.state = .running ∧ after.watchdog.control &&& Watchdog.armed = 0) ∧
      (after.TimedOut ↔ device.TurnRunsOut ∨ ¬ device.TurnClearsFlag) := by
  intro after
  obtain ⟨due, up⟩ := turned_of_timeout out
  have reset : after = (Device.reset device.turned).2 := by
    have step := congrArg Prod.snd (step_apply device)
    dsimp only at step
    rw [if_pos due] at step
    exact step
  obtain ⟨watches, bench, same⟩ := device.turned.reset_apply
  rw [← reset, turned_resetTarget] at same
  have cpu : after.cpu = { device.turned.cpu.reset with pc := device.resetTarget } := by rw [same]
  have control : after.watchdog.control =
      device.turned.watchdog.control &&& Watchdog.timeoutFlag := by
    rw [same]
    exact device.turned.resetWatchdog_control
  have disarmed : after.watchdog.control &&& Watchdog.armed = 0 := by
    have apart : Watchdog.timeoutFlag &&& Watchdog.armed = 0 := by decide
    rw [control, UInt8.and_assoc, apart, UInt8.and_zero]
  have kept : after.TimedOut ↔ device.turned.TimedOut := by
    unfold TimedOut
    rw [control, UInt8.and_assoc, UInt8.and_self]
  exact ⟨⟨congrArg Cpu.pc cpu, congrArg Cpu.a cpu, congrArg Cpu.x cpu, congrArg Cpu.cc cpu,
    congrArg Cpu.sp cpu, congrArg Cpu.state cpu, disarmed⟩, kept.trans up⟩

/-- A started part whose watchdog has a few cycles left when an interrupt is due, which is served by
an instruction of the given opcode; its operand names the control register. -/
def expiring (opcode : UInt8) : Device :=
  let started := (Operation.start.run (.new .c8a 4000000)).2
  { started with
    cpu := { started.cpu with cc := 0 }
    memory := ((started.memory.write 0x0300 opcode).write 0x0301 0x1E).write 0x1FFA 0x03
    watchdog := { started.watchdog with control := Watchdog.armed, programmableCount := 0x7FFA }
    lineAsserted := true
    pending := InterruptLine.external.bit }

theorem expiring_wellFormed (opcode : UInt8) : (expiring opcode).WellFormed := by
  have started := Reachable.wellFormed (.operate .start (.new .c8a 4000000))
  exact { started with
    cc := (by decide : (0 : UInt8) ≤ 0x1F)
    watchdogControl := (by decide : Watchdog.armed ≤ 0x1F)
    programmableCount := (by decide : (0x7FFA : UInt32) < 0x200000)
    pending := (by decide : InterruptLine.external.bit &&& 0x0003 = InterruptLine.external.bit)
    image := Vector.size_toArray _ }

/-- The watchdog runs out in the entry of an interrupt as soon as it does so in the cycles of the
entry. -/
theorem entryRunsOut_of_due {line : InterruptLine} (due : device.interruptDue? = some line)
    (out : Charge.RunsOut ⟨device.entered line, interruptCycles⟩) : device.EntryRunsOut :=
  ⟨_, Option.map_eq_some_iff.mpr ⟨line, due, rfl⟩, out⟩

/-- A service that begins with an instruction that leaves the control register alone. -/
theorem step_of_timeout_at_nop :
    (expiring 0x9D).EntryRunsOut ∧ (step (expiring 0x9D)).2.cpu.pc = 0 ∧
      (step (expiring 0x9D)).2.TimedOut := by
  have facts : (expiring 0x9D).interruptDue? = some .external ∧
      Charge.RunsOut ⟨(expiring 0x9D).entered .external, interruptCycles⟩ ∧
      (expiring 0x9D).resetTarget = 0 ∧
      Entry.remark .timeoutFlagCleared ∉ (expiring 0x9D).turned.bench.trace := by
    decide +kernel
  obtain ⟨due, runsOut, target, silent⟩ := facts
  have out := entryRunsOut_of_due due runsOut
  obtain ⟨⟨pc, -⟩, flag⟩ := step_of_timeout (.inl out)
  refine ⟨out, pc.trans target, flag.mpr (.inr ?_)⟩
  rintro ⟨entries, trace, cleared⟩
  rw [trace] at silent
  exact silent (List.mem_append_left _ cleared)

/-- A service that begins with a load from the control register loses the flag. -/
theorem timeout_flag_lost_at_load :
    (expiring 0xB6).WellFormed ∧ (expiring 0xB6).started = true ∧
      (expiring 0xB6).variant = .c8a ∧ (expiring 0xB6).EntryRunsOut ∧
      (step (expiring 0xB6)).2.watchdog.control &&& Watchdog.timeoutFlag = 0 := by
  have facts : (expiring 0xB6).interruptDue? = some .external ∧
      Charge.RunsOut ⟨(expiring 0xB6).entered .external, interruptCycles⟩ ∧
      (step (expiring 0xB6)).2.watchdog.control &&& Watchdog.timeoutFlag = 0 := by
    decide +kernel
  obtain ⟨due, runsOut, lost⟩ := facts
  exact ⟨expiring_wellFormed 0xB6, rfl, rfl, entryRunsOut_of_due due runsOut, lost⟩

end Device
end M68HC05
