import M68HC05.Proofs.Bus
import M68HC05.Proofs.Lockstep

/-!
Flows that runs and bus traffic stay in. A flow that steps stay in is stayed in by runs. A flow
that program accesses and changes of the registers stay in is stayed in by all instructions
(`ProgramFlow.perform`), and with what a step does besides, by steps (`StepFlow.step`). For a flow
that says nothing of the processor registers, the bench and the watch list (`BusFlow`) there are
only the handlers of the bus to show.
-/

namespace M68HC05

open M68HC05.Action Device

namespace Action.Flow

variable {T : Device → Device → Prop}

/-- A flow that steps stay in is stayed in by runs. -/
theorem runFor (flow : Flow T) (step : Moves T step)
    (stop : ∀ device breakpointHit, T device { device with breakpointHit := breakpointHit })
    (left : Int) (first : Bool) (device : Device) : T device (runFor left first device).2 := by
  fun_induction Device.runFor left first device with
  | case1 left first device positive stops => exact stop device true
  | case2 left first device positive goes stepped hit =>
    exact flow.trans (step device) (stop _ true)
  | case3 left first device positive goes stepped miss ih => exact flow.trans (step device) ih
  | case4 left first device spent => exact flow.refl device

theorem execute (flow : Flow T) (step : Moves T step)
    (stop : ∀ device breakpointHit, T device { device with breakpointHit := breakpointHit })
    (grant : ∀ device budget, T device { device with budget := budget }) (cycles : UInt64) :
    Moves T (execute cycles) := by
  intro device
  unfold Device.execute
  dsimp only
  refine flow.trans (flow.trans (stop device false) ?_) (grant _ _)
  exact flow.runFor step stop _ true _

/-- A flow that pushes stay in is stayed in by whole frames. -/
theorem pushPc (flow : Flow T) (push : ∀ byte, Moves T (push byte)) : Moves T pushPc := by
  unfold Device.pushPc
  exact Moves.get fun device => flow.bind (push _) fun _ => push _

theorem pushFrame (flow : Flow T) (push : ∀ byte, Moves T (push byte)) : Moves T pushFrame := by
  unfold Device.pushFrame
  refine flow.bind (flow.pushPc push) fun _ => Moves.get fun device => ?_
  refine flow.bind (push device.cpu.x) fun _ => Moves.get fun device => ?_
  refine flow.bind (push device.cpu.a) fun _ => Moves.get fun device => ?_
  exact push _

end Action.Flow

/-! ## Programs -/

/-- A flow that the building blocks of instructions stay in, apart from writes: program reads, and
changes of the registers other than the cycle counter. -/
structure ReadFlow (T : Device → Device → Prop) : Prop extends Flow T where
  cpu (device : Device) {cpu : Cpu} (timeless : cpu.tick = device.cpu.tick) :
    T device { device with cpu }
  remark (text : Remark) (other : text ≠ .timeoutFlagCleared) : Moves T (remark text)
  read (address : UInt16) : Moves T (read address .program)

namespace ReadFlow

variable {T : Device → Device → Prop}

/-- A single run through an instruction is in lockstep with itself. -/
theorem readLockstep (flow : ReadFlow T) (start : Device) : ReadLockstep (Along T start) where
  cpu related := by rw [related.1]
  lineAsserted related := by rw [related.1]
  changeCpu _ timeless := flow.respects (fun device => flow.cpu device (timeless _)) start
  remark text other := flow.respects (flow.remark text other) start
  read address := flow.respects (flow.read address) start

theorem fetch (flow : ReadFlow T) : Moves T fetch :=
  flow.of_respects fun start => (flow.readLockstep start).fetch

theorem jumpThrough (flow : ReadFlow T) (vector : UInt16) : Moves T (jumpThrough vector) :=
  flow.of_respects fun start => (flow.readLockstep start).jumpThrough vector

end ReadFlow

/-- A flow that all building blocks of instructions stay in. -/
structure ProgramFlow (T : Device → Device → Prop) : Prop extends ReadFlow T where
  write (address : UInt16) (byte : UInt8) : Moves T (write address byte .program)

namespace ProgramFlow

variable {T : Device → Device → Prop}

theorem lockstep (flow : ProgramFlow T) (start : Device) : Lockstep (Along T start) where
  toReadLockstep := flow.readLockstep start
  write address byte := flow.respects (flow.write address byte) start

theorem pushFrame (flow : ProgramFlow T) : Moves T pushFrame :=
  flow.of_respects fun start => (flow.lockstep start).pushFrame

theorem perform (flow : ProgramFlow T) (instruction : Instruction) :
    Moves T (perform instruction) :=
  flow.of_respects fun start => (flow.lockstep start).perform instruction

end ProgramFlow

/-- A flow that also what a step does besides an instruction stays in. -/
structure StepFlow (T : Device → Device → Prop) : Prop extends ProgramFlow T where
  acknowledge (line : InterruptLine) : Moves T (signal (.acknowledge line))
  consume : Moves T (modify fun device =>
    { device with pending := device.pending &&& ~~~InterruptLine.external.bit })
  charge (cycles : Nat) : Moves T (charge cycles)
  idle : Moves T (changeCpu (·.addTicks idleCycles))
  reset : Moves T reset

namespace StepFlow

variable {T : Device → Device → Prop}

/-- A single step runs beside itself. -/
theorem clocked (flow : StepFlow T) (start : Device) : Clocked (Along T start) where
  toLockstep := flow.lockstep start
  resetDue related := by rw [related.1]
  interruptDue related := by rw [related.1]
  acknowledge line := flow.respects (flow.acknowledge line) start
  consume := flow.respects flow.consume start
  charge cycles := flow.respects (flow.charge cycles) start
  idle := flow.respects flow.idle start
  reset := flow.respects flow.reset start

theorem step (flow : StepFlow T) : Moves T step :=
  flow.of_respects fun start => (flow.clocked start).step

end StepFlow

/-! ## Bus traffic -/

/-- A flow that bus accesses stay in, whatever happens to the processor registers. -/
structure BusFlow (T : Device → Device → Prop) : Prop extends Flow T where
  cpu (device : Device) (cpu : Cpu) : T device { device with cpu }
  bench (device : Device) (bench : Bench) : T device { device with bench }
  watched (device : Device) (watches : WatchList) (bench : Bench) :
    T device { device with watches, bench }
  readHandler {variant : Variant} {address offset : UInt16} {handler : Handler}
    (goes : variant.addressMap.reader? address = some (handler, offset)) (access : Access) :
    Moves T (readHandler handler offset address access)
  writeHandler {variant : Variant} {address offset : UInt16} {handler : Handler}
    (goes : variant.addressMap.writer? address = some (handler, offset)) (byte : UInt8)
    (access : Access) : Moves T (writeHandler handler offset address byte access)

namespace BusFlow

variable {T : Device → Device → Prop}

theorem changeCpu (flow : BusFlow T) (change : Cpu → Cpu) : Moves T (changeCpu change) :=
  fun device => flow.cpu device _

theorem remark (flow : BusFlow T) (text : Remark) : Moves T (remark text) :=
  fun device => flow.bench device _

theorem signal (flow : BusFlow T) (sent : Signal) : Moves T (signal sent) :=
  fun device => flow.bench device _

theorem read (flow : BusFlow T) (address : UInt16) (access : Access) :
    Moves T (read address access) :=
  Moves.read flow.toFlow (fun _ _ _ goes => flow.readHandler goes access)
    fun _ _ device => flow.watched device _ _

theorem write (flow : BusFlow T) (address : UInt16) (byte : UInt8) (access : Access) :
    Moves T (write address byte access) :=
  Moves.write flow.toFlow (fun _ _ _ goes => flow.writeHandler goes byte access)
    fun _ _ device => flow.watched device _ _

theorem program (flow : BusFlow T) : ProgramFlow T where
  toFlow := flow.toFlow
  cpu device _ _ := flow.cpu device _
  remark text _ := flow.remark text
  read address := flow.read address .program
  write address byte := flow.write address byte .program

theorem jumpThrough (flow : BusFlow T) (vector : UInt16) : Moves T (jumpThrough vector) :=
  flow.program.jumpThrough vector

theorem perform (flow : BusFlow T) (instruction : Instruction) : Moves T (perform instruction) :=
  flow.program.perform instruction

end BusFlow
end M68HC05
