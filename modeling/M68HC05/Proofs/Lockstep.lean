import M68HC05.Proofs.Traffic

/-!
Devices in lockstep. A relation between devices with the same registers that survives program
accesses survives every instruction (`Lockstep.perform`): a lockstep is an account of accesses that
takes no note of them. With what a step does besides (`Clocked`) it survives steps, and with
what a run does besides (`Paced`) it survives runs on any budget.

An invariant or a frame condition that says nothing of the processor registers follows from the same
walk over the instructions, with the relation `Along T start` in place of `R`.
-/

namespace M68HC05

open M68HC05.Action Device

variable {R : Device → Device → Prop} {α : Type}

/-- Runs from devices in lockstep answer alike, make the same accesses and end in lockstep. -/
theorem Action.Records.alike {action : Action α} {log : Device → List BusAccess}
    (records : Records (fun _ => R) action log) {d e : Device} (related : R d e) :
    (action d).1 = (action e).1 ∧ log d = log e ∧ R (action d).2 (action e).2 :=
  @records [] d e related

/-- What makes the accesses of a log whatever they are makes a lockstep. -/
theorem Action.Records.respects {action : Action α} {log : Device → List BusAccess}
    (records : Records (fun _ => R) action log) : Respects R action := by
  intro d e related
  obtain ⟨answer, -, after⟩ := records.alike related
  exact ⟨answer, after⟩

/-! ## Instructions -/

/-- A relation that holds between devices with the same processor registers and is kept by what an
instruction does to a device, apart from its writes. -/
structure ReadLockstep (R : Device → Device → Prop) : Prop where
  cpu {d e : Device} : R d e → d.cpu = e.cpu
  lineAsserted {d e : Device} : R d e → d.lineAsserted = e.lineAsserted
  /-- instructions leave the cycle counter to the clock -/
  changeCpu (change : Cpu → Cpu)
    (timeless : ∀ cpu, (change cpu).tick = cpu.tick) : Respects R (Device.changeCpu change)
  /-- what an instruction remarks by itself is not about the timeout flag -/
  remark (text : Remark) (other : text ≠ .timeoutFlagCleared) : Respects R (Device.remark text)
  read (address : UInt16) : Respects R (Device.read address .program)

namespace ReadLockstep

theorem recorder (lock : ReadLockstep R) : ReadRecorder fun _ => R where
  cpu := lock.cpu
  lineAsserted := lock.lineAsserted
  changeCpu change timeless := .none fun related => lock.changeCpu change timeless related
  remark text other := .none fun related => lock.remark text other related
  read address := by
    intro past d e related
    obtain ⟨answer, after⟩ := lock.read address related
    refine ⟨answer, ?_, after⟩
    dsimp only [readAccess]
    rw [answer]

/-- What follows a look at the device may depend on its registers. -/
theorem readCpu (lock : ReadLockstep R) {next : Device → Action α}
    (same : ∀ {d e : Device}, d.cpu = e.cpu → next d = next e)
    (each : ∀ device, Respects R (next device)) : Respects R (get >>= next) :=
  Respects.get (fun related => same (lock.cpu related)) each

theorem fetch (lock : ReadLockstep R) : Respects R fetch :=
  lock.recorder.fetch.respects

theorem jumpThrough (lock : ReadLockstep R) (vector : UInt16) : Respects R (jumpThrough vector) :=
  (lock.recorder.jumpThrough vector).respects

theorem maskInterrupts (lock : ReadLockstep R) : Respects R maskInterrupts :=
  lock.recorder.maskInterrupts.respects

end ReadLockstep

/-- A relation that is kept by all that an instruction does to a device. -/
structure Lockstep (R : Device → Device → Prop) : Prop extends ReadLockstep R where
  write (address : UInt16) (byte : UInt8) : Respects R (Device.write address byte .program)

namespace Lockstep

theorem writeRecorder (lock : Lockstep R) : Recorder fun _ => R where
  toReadRecorder := lock.recorder
  write address byte := by
    intro past d e related
    obtain ⟨answer, after⟩ := lock.write address byte related
    exact ⟨answer, rfl, after⟩

theorem pushFrame (lock : Lockstep R) : Respects R pushFrame :=
  lock.writeRecorder.pushFrame.respects

/-- Every instruction keeps devices in lockstep. -/
theorem perform (lock : Lockstep R) (instruction : Instruction) :
    Respects R (perform instruction) :=
  (lock.writeRecorder.perform instruction).respects

end Lockstep

/-! ## Steps -/

/-- A relation that is kept by what a step does to a device besides running an instruction. -/
structure Clocked (R : Device → Device → Prop) : Prop extends Lockstep R where
  resetDue {d e : Device} : R d e → d.resetDue = e.resetDue
  interruptDue {d e : Device} : R d e → d.interruptDue? = e.interruptDue?
  acknowledge (line : InterruptLine) : Respects R (signal (.acknowledge line))
  consume : Respects R (modify fun device =>
    { device with pending := device.pending &&& ~~~InterruptLine.external.bit })
  charge (cycles : Nat) : Respects R (Device.charge cycles)
  /-- what a stopped processor does -/
  idle : Respects R (Device.changeCpu (·.addTicks idleCycles))
  reset : Respects R Device.reset

namespace Clocked

theorem takeInterrupt (clocked : Clocked R) (line : InterruptLine) :
    Respects R (takeInterrupt line) := by
  unfold Device.takeInterrupt
  refine clocked.pushFrame.bind fun _ => clocked.maskInterrupts.bind fun _ => ?_
  have rest : Respects R (do
      Device.remark (.interruptTaken line)
      signal (.acknowledge line)
      Device.jumpThrough line.vector
      Device.changeCpu fun cpu => { cpu with state := .running }
      Device.charge interruptCycles) := by
    refine (clocked.remark _ Remark.noConfusion).bind fun _ => ?_
    refine (clocked.acknowledge line).bind fun _ => ?_
    refine (clocked.jumpThrough line.vector).bind fun _ => ?_
    exact (clocked.changeCpu _ fun _ => by rfl).bind fun _ => clocked.charge interruptCycles
  exact .ite (fun _ => clocked.consume.bind fun _ => rest) fun _ => rest

theorem serveInterrupt (clocked : Clocked R) : Respects R serveInterrupt := by
  unfold Device.serveInterrupt
  refine Respects.get (fun related => by rw [clocked.interruptDue related]) fun device => ?_
  cases device.interruptDue? with
  | none => exact .pure 0
  | some line => exact (clocked.takeInterrupt line).bind fun _ => .pure interruptCycles

theorem runInstruction (clocked : Clocked R) : Respects R runInstruction := by
  unfold Device.runInstruction
  refine clocked.fetch.bind fun opcode => ?_
  refine (clocked.perform (.decode opcode)).bind fun _ => ?_
  exact (clocked.charge _).bind fun _ => .pure _

theorem runProcessor (clocked : Clocked R) : Respects R runProcessor := by
  unfold Device.runProcessor
  refine clocked.readCpu (fun same => by rw [same]) fun device => ?_
  cases device.cpu.state with
  | running => exact clocked.runInstruction
  | wait => exact (clocked.charge idleCycles).bind fun _ => .pure idleCycles
  | stop => exact clocked.idle.bind fun _ => .pure idleCycles

/-- Steps keep devices in lockstep. -/
theorem step (clocked : Clocked R) : Respects R step := by
  unfold Device.step
  refine clocked.serveInterrupt.bind fun entry => clocked.runProcessor.bind fun turn => ?_
  refine Respects.get (fun related => by rw [clocked.resetDue related]) fun device => ?_
  exact .ite (fun _ => clocked.reset.bind fun _ => .pure _) fun _ => .pure _

end Clocked

/-! ## Runs -/

/-- A relation that is kept by what a run does to a device between its steps. -/
structure Paced (R : Device → Device → Prop) : Prop extends Clocked R where
  budget {d e : Device} : R d e → d.budget = e.budget
  breakpoints {d e : Device} : R d e → d.breakpoints = e.breakpoints
  hasHit {d e : Device} : R d e → d.watches.hasHit = e.watches.hasHit
  setBudget {d e : Device} (budget : Int64) :
    R d e → R { d with budget := budget } { e with budget := budget }
  setBreakpointHit {d e : Device} (hit : Bool) :
    R d e → R { d with breakpointHit := hit } { e with breakpointHit := hit }

namespace Paced

theorem runFor (paced : Paced R) (left : Int) (first : Bool) {d e : Device} (related : R d e) :
    (runFor left first d).1 = (runFor left first e).1 ∧
      R (runFor left first d).2 (runFor left first e).2 := by
  fun_induction Device.runFor left first d generalizing e with
  | case1 left first d positive stop =>
    rw [paced.breakpoints related, paced.cpu related] at stop
    rw [Device.runFor, if_pos positive, if_pos stop]
    exact ⟨rfl, paced.setBreakpointHit true related⟩
  | case2 left first d positive go stepped =>
    rename_i hit
    rw [paced.breakpoints related, paced.cpu related] at go
    have together := paced.step related
    rw [paced.hasHit together.2] at hit
    rw [Device.runFor, if_pos positive, if_neg go, if_pos hit]
    exact ⟨rfl, paced.setBreakpointHit true together.2⟩
  | case3 left first d positive go stepped miss =>
    rename_i ih
    rw [paced.breakpoints related, paced.cpu related] at go
    have together := paced.step related
    rw [paced.hasHit together.2] at miss
    rw [Device.runFor.eq_1 left first e, if_pos positive, if_neg go, if_neg miss, ← together.1]
    exact ih together.2
  | case4 left first d spent =>
    rw [Device.runFor, if_neg spent]
    exact ⟨rfl, related⟩

/-- Runs keep devices in lockstep, on any budget. -/
theorem execute (paced : Paced R) (cycles : UInt64) : Respects R (execute cycles) := by
  intro d e related
  have begun := paced.setBreakpointHit false related
  have budgets := paced.budget related
  have registers := paced.cpu related
  unfold Device.execute
  generalize ({ d with breakpointHit := false } : Device) = begunLeft at begun ⊢
  generalize ({ e with breakpointHit := false } : Device) = begunRight at begun ⊢
  rw [budgets]
  obtain ⟨left, after⟩ := paced.runFor
    (min (e.budget.toInt + min (cycles.toNat : Int) largestBudget) largestBudget) true begun
  refine ⟨?_, ?_⟩
  · simp only [registers, paced.cpu after]
  · simp only [left]
    exact paced.setBudget _ after

end Paced
end M68HC05
