import M68HC05.Proofs.Flow
import M68HC05.Snapshot
import M68HC05.View

/-!
What a host does with a device: the operations of the device, the arrangements around it, and the
devices that are reachable in this way from a new one. A relation between two devices that all
operations respect is `Hosted`, and a flow that all operations stay in is an `OperationFlow`. For a
flow that says nothing of the processor registers (`HostFlow`) there are only the accesses, the
passing of time and the changes of peripheral registers to show.
-/

namespace M68HC05

open M68HC05.Action Device

/-! ## Operations -/

/-- What an operation answers. -/
inductive Answer where
  | done
  | byte (byte : UInt8)
  | word (word : UInt16)
  /-- cycles of a step -/
  | stepped (cycles : Nat)
  /-- cycles or clocks of a run, and whether it ended at a mark -/
  | ran (used : UInt64) (stopped : Bool)
  | text (text : String)
  | hit (hit : Option WatchHit)
  deriving DecidableEq

/-- The operations of a device. -/
inductive Operation where
  | start
  | reset
  | setInputLine (line : InputLine) (asserted : Bool)
  | step
  | execute (cycles : UInt64)
  | executeClocks (clocks : UInt64)
  /-- runs the instruction of an opcode that is not fetched -/
  | perform (opcode : UInt8)
  | read (address : UInt16) (access : Access)
  | readWord (address : UInt16) (access : Access)
  | write (address : UInt16) (byte : UInt8) (access : Access)
  | setRegister (register : Register) (value : UInt32)
  | symbolLines
  | takeHit

/-- Takes the waiting watch hit. -/
def Device.takeHit : Action (Option WatchHit) :=
  modifyGet fun device =>
    let (hit, watches) := device.watches.takeHit
    (hit, { device with watches })

/-- Makes an operation. -/
def Operation.run : Operation → Action Answer
  | .start => Device.start *> pure .done
  | .reset => Device.reset *> pure .done
  | .setInputLine line asserted => Device.setInputLine line asserted *> pure .done
  | .step => Device.step >>= fun cycles => pure (.stepped cycles)
  | .execute cycles => Device.execute cycles >>= fun used =>
    get >>= fun device => pure (.ran used device.breakpointHit)
  | .executeClocks clocks => Device.executeClocks clocks >>= fun used =>
    get >>= fun device => pure (.ran used device.breakpointHit)
  | .perform opcode => Device.perform (.decode opcode) *> pure .done
  | .read address access => Device.read address access >>= fun byte => pure (.byte byte)
  | .readWord address access => Device.readWord address access >>= fun word => pure (.word word)
  | .write address byte access => Device.write address byte access *> pure .done
  | .setRegister register value => Device.setRegister register value *> pure .done
  | .symbolLines => Device.symbolLines >>= fun text => pure (.text text)
  | .takeHit => Device.takeHit >>= fun hit => pure (.hit hit)

/-! ## Arrangements -/

/-- What a host arranges around a device: the part it plugs in, and all that is its own. -/
inductive Arrangement where
  | bondPins (bonded : Vector UInt8 4)
  | loadImage (offset : UInt16) (image : Array UInt8)
  | wire (bench : Bench)
  | mark (breakpoints : List UInt16) (breakpointHit : Bool) (watches : WatchList)

/-- Makes an arrangement, if the device allows it. -/
def Arrangement.apply : Arrangement → Device → Except Failure Device
  | .bondPins bonded, device => device.setBondedPins bonded
  | .loadImage offset image, device => device.loadImage offset image
  | .wire bench, device => .ok { device with bench }
  | .mark breakpoints breakpointHit watches, device =>
    .ok { device with breakpoints, breakpointHit, watches }

/-- The devices that a host can come by: from a new one by operations, arrangements, and snapshots
of devices come by in the same way. -/
inductive Reachable : Device → Prop where
  | new (variant : Variant) (clock : UInt32) : Reachable (.new variant clock)
  | operate {device : Device} (operation : Operation) :
    Reachable device → Reachable (operation.run device).2
  | arrange {before after : Device} (arrangement : Arrangement) :
    Reachable before → arrangement.apply before = .ok after → Reachable after
  | restore {source target : Device} :
    Reachable source → Reachable target → Reachable (restore source.snapshot target).2

/-! ## Two devices under one host -/

/-- The operation changes memory or registers as a debugger does. -/
def Operation.patches : Operation → Bool
  | .write _ _ .debugger => true
  | _ => false

/-- A relation that is respected by all that a host may ask of a device, except for patches. -/
structure Attended (R : Device → Device → Prop) : Prop extends Paced R where
  ranAlike {d e : Device} (cycles : UInt64) :
    R d e → (execute cycles d).2.breakpointHit = (execute cycles e).2.breakpointHit
  start : Respects R start
  setInputLine (line : InputLine) (asserted : Bool) : Respects R (setInputLine line asserted)
  glance (address : UInt16) : Respects R (Device.read address .debugger)
  setRegister (register : Register) (value : UInt32) : Respects R (setRegister register value)
  symbolLines : Respects R symbolLines
  takeHit : Respects R takeHit

/-- A relation that is respected by all that a host may ask of a device. -/
structure Hosted (R : Device → Device → Prop) : Prop extends Attended R where
  patch (address : UInt16) (byte : UInt8) : Respects R (Device.write address byte .debugger)

namespace Attended

variable {R : Device → Device → Prop}

theorem readAny (attended : Attended R) (address : UInt16) (access : Access) :
    Respects R (Device.read address access) := by
  cases access with
  | program => exact attended.read address
  | debugger => exact attended.glance address

theorem readWordAny (attended : Attended R) (address : UInt16) (access : Access) :
    Respects R (Device.readWord address access) := by
  unfold Device.readWord
  exact (attended.readAny address access).bind fun _ =>
    (attended.readAny (address + 1) access).bind fun _ => .pure _

/-- Runs end alike at marks, which a look at the device afterwards shows. -/
theorem ran (attended : Attended R) {α : Type} (cycles : UInt64) (answer : UInt64 → Bool → α) :
    Respects R (Device.execute cycles >>= fun used =>
      get >>= fun device => pure (answer used device.breakpointHit)) := by
  intro d e related
  obtain ⟨used, after⟩ := attended.execute cycles related
  have stopped := attended.ranAlike cycles related
  simp only [bind_apply, get_apply, pure_apply, used, stopped, true_and]
  exact after

/-- Operations other than patches answer alike on related devices and leave them related. -/
theorem operation (attended : Attended R) {operation : Operation}
    (unpatched : operation.patches = false) : Respects R operation.run := by
  unfold Operation.run
  cases operation with
  | start => exact attended.start.seqRight (.pure _)
  | reset => exact attended.reset.seqRight (.pure _)
  | setInputLine line asserted => exact (attended.setInputLine line asserted).seqRight (.pure _)
  | step => exact attended.step.bind fun _ => .pure _
  | execute cycles => exact attended.ran cycles Answer.ran
  | executeClocks clocks =>
    exact attended.ran (clocksToCycles clocks) fun used => Answer.ran (cyclesToClocks used)
  | perform opcode => exact (attended.perform _).seqRight (.pure _)
  | read address access => exact (attended.readAny address access).bind fun _ => .pure _
  | readWord address access => exact (attended.readWordAny address access).bind fun _ => .pure _
  | write address byte access =>
    cases access with
    | program => exact (attended.write address byte).seqRight (.pure _)
    | debugger => cases unpatched
  | setRegister register value => exact (attended.setRegister register value).seqRight (.pure _)
  | symbolLines => exact attended.symbolLines.bind fun _ => .pure _
  | takeHit => exact attended.takeHit.bind fun _ => .pure _

end Attended

/-- Every operation answers alike on related devices and leaves them related. -/
theorem Hosted.operation {R : Device → Device → Prop} (hosted : Hosted R) (operation : Operation) :
    Respects R operation.run := by
  cases patch : operation.patches with
  | false => exact hosted.toAttended.operation patch
  | true =>
    unfold Operation.patches at patch
    split at patch
    · exact (hosted.patch _ _).seqRight (.pure _)
    · cases patch

/-- The report on the input and output registers is made of debugger reads. -/
theorem Device.respects_symbolLines {R : Device → Device → Prop}
    (names : ∀ {d e : Device}, R d e → symbolLinesOf d.variant = symbolLinesOf e.variant)
    (glance : ∀ address, Respects R (Device.read address .debugger)) :
    Respects R Device.symbolLines := by
  unfold Device.symbolLines
  refine Respects.get names fun device => ?_
  unfold symbolLinesOf
  refine Respects.bind ?_ fun _ => .pure _
  generalize device.variant.symbols = symbols
  generalize ("" : String) = text
  induction symbols generalizing text with
  | nil => exact .pure text
  | cons entry symbols ih =>
    obtain ⟨address, name⟩ := entry
    rw [List.forIn_cons]
    refine Respects.bind (Respects.ite (fun _ => ?_) fun _ => .pure _) fun next => ?_
    · exact (glance address).bind fun _ => .pure _
    · cases next with
      | done text => exact .pure text
      | yield text => exact ih text

/-! ## One device under a host -/

/-- A flow that each operation of a device stays in. -/
structure OperationFlow (T : Device → Device → Prop) : Prop extends Flow T where
  stop (device : Device) (breakpointHit : Bool) : T device { device with breakpointHit }
  grant (device : Device) (budget : Int64) : T device { device with budget }
  start : Moves T start
  reset : Moves T reset
  setInputLine (line : InputLine) (asserted : Bool) : Moves T (setInputLine line asserted)
  step : Moves T step
  perform (instruction : Instruction) : Moves T (perform instruction)
  read (address : UInt16) (access : Access) : Moves T (Device.read address access)
  write (address : UInt16) (byte : UInt8) (access : Access) :
    Moves T (Device.write address byte access)
  setRegister (register : Register) (value : UInt32) : Moves T (setRegister register value)
  takeHit : Moves T takeHit

namespace OperationFlow

variable {T : Device → Device → Prop}

theorem readWord (flow : OperationFlow T) (address : UInt16) (access : Access) :
    Moves T (Device.readWord address access) := by
  unfold Device.readWord
  exact flow.bind (flow.read address access) fun _ =>
    flow.bind (flow.read (address + 1) access) fun _ => flow.pure _

theorem symbolLines (flow : OperationFlow T) : Moves T Device.symbolLines :=
  flow.of_respects fun start => respects_symbolLines (fun related => by rw [related.1])
    fun address => flow.respects (flow.read address .debugger) start

theorem ran (flow : OperationFlow T) {α : Type} (cycles : UInt64) (answer : UInt64 → Bool → α) :
    Moves T (Device.execute cycles >>= fun used =>
      get >>= fun device => pure (answer used device.breakpointHit)) :=
  flow.bind (flow.execute flow.step flow.stop flow.grant cycles) fun _ =>
    Moves.get fun _ => flow.pure _

theorem operation (flow : OperationFlow T) (operation : Operation) : Moves T operation.run := by
  unfold Operation.run
  cases operation with
  | start => exact flow.seqRight flow.start (flow.pure _)
  | reset => exact flow.seqRight flow.reset (flow.pure _)
  | setInputLine line asserted =>
    exact flow.seqRight (flow.setInputLine line asserted) (flow.pure _)
  | step => exact flow.bind flow.step fun _ => flow.pure _
  | execute cycles => exact flow.ran cycles Answer.ran
  | executeClocks clocks =>
    exact flow.ran (clocksToCycles clocks) fun used => Answer.ran (cyclesToClocks used)
  | perform opcode => exact flow.seqRight (flow.perform _) (flow.pure _)
  | read address access => exact flow.bind (flow.read address access) fun _ => flow.pure _
  | readWord address access => exact flow.bind (flow.readWord address access) fun _ => flow.pure _
  | write address byte access => exact flow.seqRight (flow.write address byte access) (flow.pure _)
  | setRegister register value =>
    exact flow.seqRight (flow.setRegister register value) (flow.pure _)
  | symbolLines => exact flow.bind flow.symbolLines fun _ => flow.pure _
  | takeHit => exact flow.bind flow.takeHit fun _ => flow.pure _

end OperationFlow

/-- A flow that says nothing of the processor registers, the bench and the marks, and that all that
a host may ask of a device stays in. -/
structure HostFlow (T : Device → Device → Prop) : Prop extends BusFlow T where
  stop (device : Device) (breakpointHit : Bool) : T device { device with breakpointHit }
  grant (device : Device) (budget : Int64) : T device { device with budget }
  consume : Moves T (modify fun device =>
    { device with pending := device.pending &&& ~~~InterruptLine.external.bit })
  charge (cycles : Nat) : Moves T (Device.charge cycles)
  reset : Moves T reset
  start : Moves T start
  setInterruptLine (asserted : Bool) : Moves T (setInterruptLine asserted)
  setCaptureLine (level : Bool) : Moves T (setCaptureLine level)
  setRegister (register : Register) (value : UInt32) : Moves T (setRegister register value)

namespace HostFlow

variable {T : Device → Device → Prop}

theorem step (flow : HostFlow T) : Moves T step :=
  StepFlow.step {
    toProgramFlow := flow.program
    acknowledge := fun line => flow.signal (.acknowledge line)
    consume := flow.consume
    charge := flow.charge
    idle := flow.changeCpu _
    reset := flow.reset }

theorem setInputLine (flow : HostFlow T) (line : InputLine) (asserted : Bool) :
    Moves T (setInputLine line asserted) := by
  unfold Device.setInputLine
  cases line with
  | interrupt => exact flow.setInterruptLine asserted
  | capture => exact flow.setCaptureLine asserted
  | reset => exact .ite (fun _ => flow.reset) fun _ => flow.pure ()

theorem operationFlow (flow : HostFlow T) : OperationFlow T where
  toFlow := flow.toFlow
  stop := flow.stop
  grant := flow.grant
  start := flow.start
  reset := flow.reset
  setInputLine := flow.setInputLine
  step := flow.step
  perform := flow.perform
  read := flow.read
  write := flow.write
  setRegister := flow.setRegister
  takeHit device := flow.watched device _ device.bench

/-- Every operation stays in the flow. -/
theorem operation (flow : HostFlow T) (operation : Operation) : Moves T operation.run :=
  flow.operationFlow.operation operation

end HostFlow
end M68HC05
