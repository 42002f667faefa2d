import M68HC05.Device.Execution
import M68HC05.Instruction.Cost

/-!
A device over time: reset and start, input lines, interrupts, single steps, and runs on a budget
of machine cycles. Instructions are never split, so a run may use more than its budget; what it
overran is owed by the next run. Every step takes at least one cycle (`step_cycles_pos`), so a
run ends.
-/

namespace M68HC05.Device

/-! ## Reset -/

/-- Latches the mask option of the non-programmable watchdog on parts that have one. -/
def latchMaskOption : Action Unit := do
  let device ← get
  if device.variant.hasFixedWatchdog then
    onWatchdog (·.switchFixed (device.memory.read maskOptionAddress % 2 = 1))

/-- Resets the processor and what reset affects in the peripherals. Memory, latches, most timer
registers, the timeout flag and the programmable watchdog's count survive. -/
def reset : Action Unit := do
  remark (.deviceReset (← get).variant)
  modify fun device =>
    { device with
      cpu := device.cpu.reset
      pending := 0
      resetDue := false
      ports := device.ports.map Port.reset
      timer := device.timer.reset
      watchdog := device.watchdog.reset }
  latchMaskOption
  refreshTimerRequest
  jumpThrough resetVector

/-- Powers the device on: fills what reset leaves alone, then resets. -/
def start : Action Unit := do
  modify fun device =>
    { device with
      started := true
      ports := device.ports.map Port.powerOn
      timer := device.timer.powerOn
      watchdog := device.watchdog.powerOn }
  reset

/-! ## Input lines -/

/-- Drives the external interrupt line. An assertion latches a pending interrupt. -/
def setInterruptLine (asserted : Bool) : Action Unit := do
  if asserted && !(← get).lineAsserted then
    remark .lineAsserted
    modify fun device => { device with pending := device.pending ||| InterruptLine.external.bit }
  modify fun device => { device with lineAsserted := asserted }

/-- Drives the capture pin of the timer. -/
def setCaptureLine (level : Bool) : Action Unit := do
  onTimer (·.setCaptureLevel level)
  refreshTimerRequest

/-- The input lines that a board drives. -/
inductive InputLine where
  | interrupt
  | capture
  | reset
  deriving DecidableEq

/-- Drives an input line. The reset line acts when it is asserted. -/
def setInputLine (line : InputLine) (asserted : Bool) : Action Unit :=
  match line with
  | .interrupt => setInterruptLine asserted
  | .capture => setCaptureLine asserted
  | .reset => if asserted then reset else pure ()

/-! ## Time -/

/-- Cycles of a step while the processor waits or is stopped. -/
def idleCycles : Nat := 2

/-- Cycles of taking an interrupt. -/
def interruptCycles : Nat := 10

/-- Charges machine cycles to the cycle counter, the timer and the watchdogs. -/
def charge (cycles : Nat) : Action Unit := do
  changeCpu (·.addTicks cycles)
  onTimer (·.advance cycles)
  refreshTimerRequest
  let kinds := (← get).variant.watchdogs
  if ← onWatchdog (·.advance kinds cycles) then
    modify fun device => { device with resetDue := true }

/-- The lines of the pending mask that the processor knows. -/
def pendingMask : UInt16 := InterruptLine.external.bit ||| InterruptLine.timer.bit

/-- The line that is served next, if interrupts are pending and not masked. The external line goes
first. -/
def interruptDue? (device : Device) : Option InterruptLine :=
  if device.pending &&& pendingMask = 0 || device.cpu.flag .interruptMask then none
  else if device.variant.vectorsExternalLine && device.pending &&& InterruptLine.external.bit ≠ 0
  then some .external
  else some .timer

/-- Takes an interrupt. Serving the external line uses its edge up; the timer keeps requesting
until its flags are cleared. -/
def takeInterrupt (line : InterruptLine) : Action Unit := do
  pushFrame
  maskInterrupts
  if line = .external then
    modify fun device => { device with pending := device.pending &&& ~~~InterruptLine.external.bit }
  remark (.interruptTaken line)
  signal (.acknowledge line)
  jumpThrough line.vector
  changeCpu fun cpu => { cpu with state := .running }
  charge interruptCycles

/-- Takes an interrupt if one is due, and answers the cycles charged. -/
def serveInterrupt : Action Nat := do
  match (← get).interruptDue? with
  | some line =>
    takeInterrupt line
    return interruptCycles
  | none => return 0

/-- Fetches, runs and charges one instruction, and answers its cycles. -/
def runInstruction : Action Nat := do
  let instruction := Instruction.decode (← fetch)
  perform instruction
  charge instruction.cycles
  return instruction.cycles

/-- One turn of the processor by its run state: an instruction, or idling. While it is stopped
there is no clock for the timer and watchdogs. -/
def runProcessor : Action Nat := do
  match (← get).cpu.state with
  | .running => runInstruction
  | .wait =>
    charge idleCycles
    return idleCycles
  | .stop =>
    changeCpu (·.addTicks idleCycles)
    return idleCycles

/-- One step: an interrupt if one is due, a turn of the processor, and the reset that a watchdog
has asked for. Answers the machine cycles used. -/
def step : Action Nat := do
  let entry ← serveInterrupt
  let turn ← runProcessor
  if (← get).resetDue then
    reset
  return entry + turn

theorem runProcessor_cycles_pos (device : Device) : 0 < (runProcessor device).1 := by
  simp only [runProcessor, Action.bind_apply, Action.get_apply]
  cases device.cpu.state with
  | running => exact Instruction.cycles_pos _
  | wait => exact Nat.succ_pos _
  | stop => exact Nat.succ_pos _

theorem step_cycles_pos (device : Device) : 0 < (step device).1 := by
  have turn := runProcessor_cycles_pos (serveInterrupt device).2
  simp only [step, Action.bind_apply, Action.ite_apply, Action.get_apply, Action.pure_apply]
  split <;> exact Nat.add_pos_right _ turn

/-! ## Runs -/

/-- Steps until `left` cycles are used up, a breakpoint is reached or a watchpoint is hit; answers
the cycles left, which a stop forfeits. The instruction at which the run begins is not looked up
among the breakpoints. -/
def runFor (left : Int) (first : Bool) (device : Device) : Int × Device :=
  if 0 < left then
    if !first && device.breakpoints.contains device.cpu.pc then
      (0, { device with breakpointHit := true })
    else
      let stepped := step device
      if stepped.2.watches.hasHit then
        (0, { stepped.2 with breakpointHit := true })
      else
        runFor (left - stepped.1) false stepped.2
  else (left, device)
termination_by left.toNat
decreasing_by
  have := step_cycles_pos device
  omega

/-- The largest budget that is kept. -/
def largestBudget : Int := 0x7FFFFFFFFFFFFFFF

/-- Runs on a budget of machine cycles on top of what is left from before, and answers the cycles
used. -/
def execute (cycles : UInt64) : Action UInt64 := fun device =>
  let granted := min (device.budget.toInt + min (cycles.toNat : Int) largestBudget) largestBudget
  let (left, after) := runFor granted true { device with breakpointHit := false }
  (after.cpu.tick - device.cpu.tick, { after with budget := Int64.ofInt left })

/-- Machine cycles in a number of oscillator clocks, rounded up. -/
def clocksToCycles (clocks : UInt64) : UInt64 :=
  (clocks + 1) / 2

/-- Oscillator clocks in a number of machine cycles. -/
def cyclesToClocks (cycles : UInt64) : UInt64 :=
  cycles * 2

/-- Runs for a number of oscillator clocks, and answers the clocks used. -/
def executeClocks (clocks : UInt64) : Action UInt64 := do
  let cycles ← execute (clocksToCycles clocks)
  return cyclesToClocks cycles

end M68HC05.Device
