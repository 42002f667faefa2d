import M68HC05.Proofs.Flow

/-!
Flows that bus accesses stay in because the parts of the device do. An access operates a peripheral,
notes what the peripheral reports, and copies the timer's request; so a flow that the peripherals
may move in, that survives entries on the bench, and that survives copying the request, is stayed in
by every read (`AccessFlow.read`), and by a program write as soon as it survives what the write
stores (`PartFlow.write`).

Peripherals report samples, outputs and remarks, and never an acknowledgement of an interrupt, so
that the flow may count acknowledgements. That the timeout flag has been cleared is reported by a
program read of the control register of the watchdog and by nothing else (`Silent`), so that a flow
may rely on that report too. One that survives the report as well is an `AccessFlow`, in which all
program reads stay.
-/

namespace M68HC05

open M68HC05.Action Device

/-! ## Reports of the peripherals -/

/-- An entry neither acknowledges an interrupt nor says that the timeout flag has been cleared. -/
structure Entry.Routine (entry : Entry) : Prop where
  unacknowledged : ∀ line, entry ≠ .signal (.acknowledge line)
  uncleared : entry ≠ .remark .timeoutFlagCleared

theorem Entry.Routine.remark {text : Remark} (other : text ≠ .timeoutFlagCleared) :
    (Entry.remark text).Routine :=
  ⟨fun _ => Entry.noConfusion, fun same => other (Entry.remark.inj same)⟩

theorem Entry.Routine.signal {sent : Signal} (other : ∀ line, sent ≠ .acknowledge line) :
    (Entry.signal sent).Routine :=
  ⟨fun line same => other line (Entry.signal.inj same), Entry.noConfusion⟩

/-- A report has routine entries only. -/
def Silent (report : List Entry) : Prop :=
  ∀ entry ∈ report, entry.Routine

namespace Silent

theorem nil : Silent [] := by
  simp [Silent]

theorem cons {entry : Entry} {report : List Entry} (head : entry.Routine)
    (tail : Silent report) : Silent (entry :: report) :=
  List.forall_mem_cons.mpr ⟨head, tail⟩

theorem remark {text : Remark} (other : text ≠ .timeoutFlagCleared) : Silent [.remark text] :=
  cons (.remark other) nil

theorem append {first second : List Entry} (left : Silent first) (right : Silent second) :
    Silent (first ++ second) :=
  List.forall_mem_append.mpr ⟨left, right⟩

theorem ite {condition : Prop} [Decidable condition] {yes no : List Entry}
    (whenTrue : Silent yes) (whenFalse : Silent no) :
    Silent (if condition then yes else no) := by
  split
  · exact whenTrue
  · exact whenFalse

/-- A remark that is made on a condition. -/
theorem remarkIf {condition : Prop} [Decidable condition] {text : Remark}
    (other : text ≠ .timeoutFlagCleared) :
    Silent (if condition then [.remark text] else []) :=
  ite (remark other) nil

end Silent

namespace Timer

variable (timer : Timer)

theorem silent_writeControl (data : UInt8) : Silent (timer.writeControl data).report :=
  Silent.remark Remark.noConfusion

theorem silent_readStatus (access : Access) : Silent (timer.readStatus access).report := by
  cases access with
  | debugger => exact Silent.nil
  | program => exact Silent.remarkIf Remark.noConfusion

theorem silent_clearReport (flag : UInt8) (access : FlagAccess) :
    Silent (timer.clearReport flag access) :=
  Silent.remarkIf Remark.noConfusion

theorem silent_readCapture (half : Half) (access : Access) :
    Silent (timer.readCapture half access).report := by
  cases access with
  | debugger => exact Silent.nil
  | program =>
    cases half with
    | high => exact Silent.ite Silent.nil (Silent.remark Remark.noConfusion)
    | low =>
      exact (timer.silent_clearReport _ _).append (.remarkIf Remark.noConfusion)

theorem silent_setCaptureLevel (level : Bool) : Silent (timer.setCaptureLevel level).report := by
  unfold setCaptureLevel
  dsimp only
  split
  · exact Silent.remark Remark.noConfusion
  · exact Silent.nil

theorem silent_readCompare (half : Half) (access : Access) :
    Silent (timer.readCompare half access).report := by
  cases access with
  | debugger => exact Silent.nil
  | program =>
    cases half with
    | high => exact Silent.nil
    | low => exact timer.silent_clearReport _ _

theorem silent_writeCompare (half : Half) (data : UInt8) (access : Access) :
    Silent (timer.writeCompare half data access).report := by
  cases access with
  | debugger => exact Silent.nil
  | program =>
    cases half with
    | high => exact Silent.ite Silent.nil (Silent.remark Remark.noConfusion)
    | low =>
      exact (timer.silent_clearReport _ _).append (.remarkIf Remark.noConfusion)

theorem silent_readCounter (offset : UInt16) (access : Access) :
    Silent (timer.readCounter offset access).report := by
  unfold readCounter
  generalize (if offset / 2 % 2 = 0 then Channel.normal else Channel.alternate) = channel
  cases Half.ofOffset offset with
  | high => exact Silent.nil
  | low =>
    cases access with
    | debugger => exact Silent.nil
    | program =>
      refine (Silent.remarkIf Remark.noConfusion).append ?_
      cases channel with
      | normal => exact timer.silent_clearReport _ _
      | alternate => exact Silent.nil

theorem silent_advance (cycles : Nat) : Silent (timer.advance cycles).report := by
  refine (Silent.remarkIf Remark.noConfusion).append (Silent.ite ?_ Silent.nil)
  refine Silent.cons (.remark Remark.noConfusion) (Silent.ite Silent.nil ?_)
  exact Silent.cons (.signal fun _ => Signal.noConfusion) Silent.nil

end Timer

namespace Watchdog

variable (watchdog : Watchdog)

theorem silent_advance (kinds : WatchdogKinds) (cycles : Nat) :
    Silent (watchdog.advance kinds cycles).report :=
  (Silent.remarkIf Remark.noConfusion).append (.remarkIf Remark.noConfusion)

end Watchdog

namespace Port

variable (index : PortIndex) (port : Port)

theorem silent_driven : Silent [driven index port] :=
  Silent.cons (.signal fun _ => Signal.noConfusion) Silent.nil

theorem silent_accept (pins : UInt8) : Silent (accept index port pins).report :=
  Silent.remarkIf Remark.noConfusion

theorem silent_writeLatch (data : UInt8) : Silent (writeLatch index port data).report :=
  (Silent.remarkIf Remark.noConfusion).append (Silent.ite (silent_driven _ _) Silent.nil)

theorem silent_writeDirection (data : UInt8) :
    Silent (writeDirection index port data).report :=
  Silent.ite (Silent.cons (.remark Remark.noConfusion) (silent_driven _ _)) Silent.nil

end Port

theorem WatchList.silent_observe (list : WatchList) (address : UInt16) (made : WatchKind)
    (byte : UInt8) (previous : Option UInt8) :
    Silent (list.observe address made byte previous).report := by
  unfold WatchList.observe
  dsimp only
  split
  · exact Silent.remark Remark.noConfusion
  · exact Silent.nil

/-! ## Accesses -/

/-- A flow that the parts of a device stay in when they are operated. -/
structure PartFlow (T : Device → Device → Prop) : Prop extends Flow T where
  ports (device : Device) (ports : Ports) : T device { device with ports }
  timer (device : Device) (timer : Timer) : T device { device with timer }
  watchdog (device : Device) (watchdog : Watchdog) : T device { device with watchdog }
  entry (device : Device) {entry : Entry} (routine : entry.Routine) :
    T device { device with bench := device.bench.add entry }
  refresh : Moves T refreshTimerRequest
  observeRead (address : UInt16) (byte : UInt8) : Moves T (observe address .read byte none)

namespace PartFlow

variable {T : Device → Device → Prop} {α : Type}

theorem record (flow : PartFlow T) {report : List Entry} (silent : Silent report)
    (device : Device) : T device { device with bench := device.bench.record report } := by
  induction report generalizing device with
  | nil => exact flow.refl device
  | cons entry report ih =>
    obtain ⟨first, later⟩ := List.forall_mem_cons.mp silent
    exact flow.trans (flow.entry device first)
      (ih later { device with bench := device.bench.add entry })

theorem onTimer (flow : PartFlow T) {operation : Timer → Outcome Timer α}
    (silent : ∀ timer, Silent (operation timer).report) : Moves T (onTimer operation) :=
  fun device => flow.trans (flow.timer device (operation device.timer).next)
    (flow.record (silent device.timer) _)

theorem onWatchdog (flow : PartFlow T) {operation : Watchdog → Outcome Watchdog α}
    (silent : ∀ watchdog, Silent (operation watchdog).report) : Moves T (onWatchdog operation) :=
  fun device => flow.trans (flow.watchdog device (operation device.watchdog).next)
    (flow.record (silent device.watchdog) _)

theorem onPort (flow : PartFlow T) {index : PortIndex} {operation : Port → Outcome Port α}
    (silent : ∀ port, Silent (operation port).report) : Moves T (onPort index operation) :=
  fun device =>
    let outcome := operation (device.ports.get index)
    flow.trans (flow.ports device (device.ports.setIfInBounds index outcome.next))
      (flow.record (silent (device.ports.get index)) _)

theorem remark (flow : PartFlow T) (text : Remark) (other : text ≠ .timeoutFlagCleared) :
    Moves T (remark text) :=
  fun device => flow.entry device (.remark other)

theorem sample (flow : PartFlow T) (index : PortIndex) (mask : UInt8) :
    Moves T (modifyGet fun device =>
      let (pins?, bench) := device.bench.sample index mask
      (pins?, { device with bench })) := by
  intro device
  rw [modifyGet_apply]
  unfold Bench.sample
  dsimp only
  split
  · exact flow.refl device
  · exact flow.entry device (.signal fun _ => Signal.noConfusion)

theorem readPort (flow : PartFlow T) (index : PortIndex) (access : Access) :
    Moves T (readPort index access) := by
  have rest : Moves T (do return ((← get).ports.get index).value) :=
    Moves.get fun device => flow.pure (device.ports.get index).value
  unfold Device.readPort
  refine .ite (fun _ => Moves.get fun device => ?_) fun _ => rest
  refine flow.bind (flow.sample index _) fun pins? => ?_
  cases pins? with
  | none => exact rest
  | some pins =>
    exact flow.bind (flow.onPort fun port => port.silent_accept index pins) fun _ => rest

/-- A read of anything but the control register of the watchdog. -/
theorem readHandler (flow : PartFlow T) {handler : Handler} (other : handler ≠ .watchdogControl)
    (offset address : UInt16) (access : Access) :
    Moves T (readHandler handler offset address access) := by
  unfold Device.readHandler
  cases handler with
  | portData => exact flow.readPort _ access
  | timerStatus => exact flow.onTimer fun timer => timer.silent_readStatus access
  | inputCapture =>
    exact flow.seqLeft (flow.onTimer fun timer => timer.silent_readCapture _ access) flow.refresh
  | outputCompare =>
    exact flow.seqLeft (flow.onTimer fun timer => timer.silent_readCompare _ access) flow.refresh
  | counter =>
    exact flow.seqLeft (flow.onTimer fun timer => timer.silent_readCounter _ access) flow.refresh
  | watchdogControl => exact absurd rfl other
  | _ => exact flow.refl

/-- A program write to anything but RAM. -/
theorem writeHandler (flow : PartFlow T) {handler : Handler} (notRam : handler ≠ .ram)
    (offset address : UInt16) (byte : UInt8) :
    Moves T (writeHandler handler offset address byte .program) := by
  unfold Device.writeHandler
  cases handler with
  | portData => exact flow.onPort fun port => port.silent_writeLatch _ byte
  | portDirection => exact flow.onPort fun port => port.silent_writeDirection _ byte
  | timerControl =>
    exact flow.seqRight (flow.onTimer fun timer => timer.silent_writeControl byte) flow.refresh
  | outputCompare =>
    exact flow.seqRight (flow.onTimer fun timer => timer.silent_writeCompare _ byte .program)
      flow.refresh
  | watchdogKey => exact flow.onWatchdog fun _ => Silent.remark Remark.noConfusion
  | watchdogControl => exact flow.onWatchdog fun _ => Silent.remark Remark.noConfusion
  | watchdogClear => exact flow.onWatchdog fun _ => Silent.remark Remark.noConfusion
  | ram => exact absurd rfl notRam
  | _ => exact flow.refl

/-- A program write, in a flow that survives what is stored. -/
theorem write (flow : PartFlow T) (address : UInt16) (byte : UInt8)
    (observes : ∀ previous, Moves T (observe (busAddress address) .write byte previous))
    (stores : Moves T (store (busAddress address) byte)) :
    Moves T (Device.write address byte .program) := by
  refine Moves.write flow.toFlow (fun _ handler offset _ => ?_) fun _ => observes
  by_cases ram : handler = .ram
  · rw [ram]
    exact stores
  · exact flow.writeHandler ram offset _ byte

/-- The passing of time outside the cycle counter. -/
theorem charge (flow : PartFlow T) (cycles : Nat)
    (counts : Moves T (changeCpu (·.addTicks cycles)))
    (due : ∀ device : Device, T device { device with resetDue := true }) :
    Moves T (charge cycles) := by
  unfold Device.charge
  refine flow.bind counts fun _ => ?_
  refine flow.bind (flow.onTimer fun timer => timer.silent_advance cycles) fun _ => ?_
  refine flow.bind flow.refresh fun _ => Moves.get fun device => ?_
  refine flow.bind (flow.onWatchdog fun watchdog => watchdog.silent_advance _ cycles) fun fired => ?_
  exact .ite (fun _ => due) fun _ => flow.pure ()

theorem latchMaskOption (flow : PartFlow T) : Moves T latchMaskOption := by
  unfold Device.latchMaskOption
  refine Moves.get fun device => .ite (fun _ => ?_) fun _ => flow.pure ()
  exact flow.onWatchdog fun _ => Silent.remark Remark.noConfusion

/-- A reset, in a flow that survives what is cleared at once. -/
theorem reset (flow : PartFlow T)
    (cleared : ∀ device : Device, T device { device with
      cpu := device.cpu.reset
      pending := 0
      resetDue := false
      ports := device.ports.map Port.reset
      timer := device.timer.reset
      watchdog := device.watchdog.reset })
    (jump : Moves T (jumpThrough resetVector)) : Moves T reset := by
  unfold Device.reset
  refine Moves.get fun device => flow.bind (flow.remark _ Remark.noConfusion) fun _ => ?_
  refine flow.bind cleared fun _ => flow.bind flow.latchMaskOption fun _ => ?_
  exact flow.bind flow.refresh fun _ => jump

end PartFlow

/-- A flow that survives the report of a cleared timeout flag, too. -/
structure AccessFlow (T : Device → Device → Prop) : Prop extends PartFlow T where
  cleared (device : Device) :
    T device { device with bench := device.bench.add (.remark .timeoutFlagCleared) }

namespace AccessFlow

variable {T : Device → Device → Prop}

theorem readControl (flow : AccessFlow T) : Moves T (onWatchdog (·.readControl .program)) := by
  intro device
  have counted := flow.watchdog device (device.watchdog.readControl .program).next
  unfold onWatchdog
  rw [modifyGet_apply]
  dsimp only [Watchdog.readControl] at counted ⊢
  split
  · exact flow.trans counted (flow.cleared _)
  · exact counted

theorem read (flow : AccessFlow T) (address : UInt16) :
    Moves T (Device.read address .program) := by
  refine Moves.read flow.toFlow (fun _ handler offset _ => ?_) fun _ byte => flow.observeRead _ byte
  by_cases control : handler = .watchdogControl
  · rw [control]
    exact flow.readControl
  · exact flow.readHandler control offset _ .program

end AccessFlow
end M68HC05
