import M68HC05.Proofs.Operation

/-!
What a step is made of, and what it costs. A step serves an interrupt if one is due, lets the
processor take a turn, and makes the reset that a watchdog has asked for (`Device.step_apply` and
the equations before it). It charges at most 21 cycles (`Device.step_cycles_le`), and the cycle
counter advances by exactly the cycles that the step answers (`Device.step_tick`): instructions
leave the counter alone, and so does a reset at the end.
-/

namespace M68HC05

open M68HC05.Action

/-- `MUL` is the longest instruction. -/
theorem Instruction.cycles_le (instruction : Instruction) : instruction.cycles ≤ 11 := by
  cases instruction with
  | modify op target => cases op <;> cases target <;> decide
  | register _ operand => cases operand <;> exact Nat.le_of_ble_eq_true rfl
  | sta operand => cases operand <;> decide
  | stx operand => cases operand <;> decide
  | jmp operand => cases operand <;> decide
  | jsr operand => cases operand <;> decide
  | _ => exact Nat.le_of_ble_eq_true rfl

namespace Device

variable {device : Device}

/-! ## The parts of a step -/

/-- The device after the frame of an interrupt is saved and further interrupts are masked. -/
def framed (device : Device) : Device :=
  (maskInterrupts (pushFrame device).2).2

/-- The device after the service of a line is put in the books: an external edge is used up, and the
board hears of it. -/
def signalled (line : InterruptLine) (device : Device) : Device :=
  { device with
    pending :=
      if line = .external then device.pending &&& ~~~InterruptLine.external.bit
      else device.pending
    bench := (device.bench.add (.remark (.interruptTaken line))).add
      (.signal (.acknowledge line)) }

/-- The device after an interrupt is taken, but for the cycles that are charged for it. -/
def entered (line : InterruptLine) (device : Device) : Device :=
  (changeCpu (fun cpu => { cpu with state := .running })
    (jumpThrough line.vector (device.framed.signalled line)).2).2

theorem takeInterrupt_apply (line : InterruptLine) (device : Device) :
    takeInterrupt line device = charge interruptCycles (device.entered line) := by
  unfold takeInterrupt entered framed
  rw [bind_apply, bind_apply]
  generalize (maskInterrupts (pushFrame device).2).2 = framed
  cases line with
  | external => rfl
  | timer => rfl

/-- A flow that survives the books of a service goes on from a saved frame through the vector. -/
theorem entered_of_framed {T : Device → Device → Prop} (flow : ReadFlow T) {line : InterruptLine}
    (books : ∀ device : Device, T device (device.signalled line)) (device : Device) :
    T device.framed (device.entered line) := by
  have jumped := flow.jumpThrough line.vector (device.framed.signalled line)
  unfold entered
  generalize (jumpThrough line.vector (device.framed.signalled line)).2 = after at jumped ⊢
  exact flow.trans (flow.trans (books device.framed) jumped) (flow.cpu after rfl)

theorem serveInterrupt_idle (due : device.interruptDue? = none) :
    serveInterrupt device = (0, device) := by
  unfold serveInterrupt
  rw [bind_apply, get_apply]
  dsimp only
  rw [due]
  rfl

theorem serveInterrupt_due {line : InterruptLine} (due : device.interruptDue? = some line) :
    serveInterrupt device =
      (interruptCycles, (charge interruptCycles (device.entered line)).2) := by
  unfold serveInterrupt
  rw [bind_apply, get_apply]
  dsimp only
  rw [due]
  dsimp only
  rw [bind_apply, takeInterrupt_apply]
  rfl

/-- The instruction that a running processor meets. -/
def nextInstruction (device : Device) : Instruction :=
  .decode (fetch device).1

theorem runProcessor_running (running : device.cpu.state = .running) :
    runProcessor device = (device.nextInstruction.cycles,
      (charge device.nextInstruction.cycles
        (perform device.nextInstruction (fetch device).2).2).2) := by
  unfold runProcessor
  rw [bind_apply, get_apply]
  dsimp only
  rw [running]
  rfl

theorem runProcessor_wait (waiting : device.cpu.state = .wait) :
    runProcessor device = (idleCycles, (charge idleCycles device).2) := by
  unfold runProcessor
  rw [bind_apply, get_apply]
  dsimp only
  rw [waiting]
  rfl

theorem runProcessor_stop (stopped : device.cpu.state = .stop) :
    runProcessor device = (idleCycles, (changeCpu (·.addTicks idleCycles) device).2) := by
  unfold runProcessor
  rw [bind_apply, get_apply]
  dsimp only
  rw [stopped]
  rfl

/-- The device after the turn of the processor in a step. -/
def turned (device : Device) : Device :=
  (runProcessor (serveInterrupt device).2).2

theorem step_apply (device : Device) :
    step device =
      ((serveInterrupt device).1 + (runProcessor (serveInterrupt device).2).1,
        if device.turned.resetDue = true then (reset device.turned).2 else device.turned) := by
  unfold step turned
  simp only [bind_apply, get_apply, Action.ite_apply, pure_apply]
  split
  · rfl
  · rfl

/-- A stopped processor for which no interrupt is due only lets time pass. -/
theorem step_stopped (stopped : device.cpu.state = .stop) (due : device.interruptDue? = none)
    (settled : device.resetDue = false) :
    step device = (idleCycles, { device with cpu := device.cpu.addTicks idleCycles }) := by
  have turned : device.turned = { device with cpu := device.cpu.addTicks idleCycles } := by
    unfold turned
    rw [serveInterrupt_idle due, runProcessor_stop stopped]
    rfl
  have goesOn : ¬ device.turned.resetDue = true := by
    rw [turned, settled]
    exact Bool.false_ne_true
  rw [step_apply, if_neg goesOn, turned, serveInterrupt_idle due, runProcessor_stop stopped]
  rfl

theorem charge_cpu (cycles : Nat) (device : Device) :
    (charge cycles device).2.cpu = device.cpu.addTicks cycles := by
  unfold charge
  simp only [bind_apply, get_apply, Action.ite_apply]
  split
  · rfl
  · rfl

/-! ## Bounds -/

theorem serveInterrupt_cycles_le (device : Device) : (serveInterrupt device).1 ≤ 10 := by
  rcases due : device.interruptDue? with _ | line
  · rw [serveInterrupt_idle due]
    exact Nat.zero_le 10
  · rw [serveInterrupt_due due]
    exact Nat.le_refl 10

theorem runProcessor_cycles_le (device : Device) : (runProcessor device).1 ≤ 11 := by
  cases state : device.cpu.state with
  | running =>
    rw [runProcessor_running state]
    exact Instruction.cycles_le _
  | wait =>
    rw [runProcessor_wait state]
    exact (by decide : idleCycles ≤ 11)
  | stop =>
    rw [runProcessor_stop state]
    exact (by decide : idleCycles ≤ 11)

theorem step_cycles_le (device : Device) : (step device).1 ≤ 21 := by
  have entry := serveInterrupt_cycles_le device
  have turn := runProcessor_cycles_le (serveInterrupt device).2
  rw [step_apply]
  dsimp only
  omega

/-! ## The cycle counter -/

/-- Programs cannot touch the cycle counter. -/
theorem tick_flow : ProgramFlow (Same fun device => device.cpu.tick) where
  toFlow := Same.flow _
  cpu _ _ timeless := timeless
  remark _ _ _ := rfl
  read address device := by
    have frame := frame_read address .program device
    exact congrArg (fun frame => frame.cpu.tick) frame
  write address byte device := by
    have frame := frame_write address byte .program device
    exact congrArg (fun frame => frame.cpu.tick) frame

theorem entered_tick (line : InterruptLine) (device : Device) :
    (device.entered line).cpu.tick = device.cpu.tick := by
  have pushed : (pushFrame device).2.cpu.tick = device.cpu.tick := tick_flow.pushFrame device
  have entered : (device.entered line).cpu.tick = device.framed.cpu.tick :=
    entered_of_framed tick_flow.toReadFlow (fun _ => rfl) device
  rw [entered, ← pushed]
  rfl

theorem serveInterrupt_tick (device : Device) :
    (serveInterrupt device).2.cpu.tick =
      device.cpu.tick + UInt64.ofNat (serveInterrupt device).1 := by
  rcases due : device.interruptDue? with _ | line
  · rw [serveInterrupt_idle due]
    exact (UInt64.add_zero device.cpu.tick).symm
  · rw [serveInterrupt_due due, charge_cpu, ← entered_tick line]
    rfl

theorem runProcessor_tick (device : Device) :
    (runProcessor device).2.cpu.tick = device.cpu.tick + UInt64.ofNat (runProcessor device).1 := by
  cases state : device.cpu.state with
  | running =>
    have fetched : (fetch device).2.cpu.tick = device.cpu.tick := tick_flow.fetch device
    have performed : (perform device.nextInstruction (fetch device).2).2.cpu.tick =
        (fetch device).2.cpu.tick := tick_flow.perform _ _
    rw [runProcessor_running state, charge_cpu, ← fetched, ← performed]
    rfl
  | wait =>
    rw [runProcessor_wait state, charge_cpu]
    rfl
  | stop =>
    rw [runProcessor_stop state]
    rfl

theorem reset_tick (device : Device) : (reset device).2.cpu.tick = device.cpu.tick := by
  have flow := tick_flow.toFlow
  have latched : Moves (Same fun device => device.cpu.tick) latchMaskOption := by
    unfold latchMaskOption
    exact Moves.get fun _ => .ite (fun _ _ => rfl) fun _ _ => rfl
  have whole : Moves (Same fun device => device.cpu.tick) reset := by
    unfold reset
    refine Moves.get fun _ => flow.bind (fun _ => rfl) fun _ => flow.bind (fun _ => rfl) fun _ => ?_
    refine flow.bind latched fun _ => flow.bind (fun _ => rfl) fun _ => ?_
    exact tick_flow.jumpThrough resetVector
  exact whole device

/-- A step advances the cycle counter by the cycles it answers. -/
theorem step_tick (device : Device) :
    (step device).2.cpu.tick = device.cpu.tick + UInt64.ofNat (step device).1 := by
  have turn : device.turned.cpu.tick = device.cpu.tick + UInt64.ofNat (step device).1 := by
    unfold turned
    rw [runProcessor_tick, serveInterrupt_tick, step_apply, UInt64.add_assoc, UInt64.ofNat_add]
  rw [step_apply] at turn ⊢
  dsimp only at turn ⊢
  split
  · rw [reset_tick]
    exact turn
  · exact turn

end Device
end M68HC05
