import M68HC05.Proofs.Service
import M68HC05.Proofs.WellFormed

/-!
The history of interrupts. A run of a device is noted for the edges of the external line, the
services and the resets in it (`InterruptEvent`), in their order. The interrupt controller can be
read off this history: an edge is latched while it waits for its service and no reset has dropped it,
only an edge that waits is served, and the board hears of every service once (`Accounted`). Each step
serves what is due at its beginning, the timer after the external line (`Responsive`). So no
interrupt is lost, served twice or made up (`Reachable.interrupts_accounted`).
-/

namespace M68HC05

open M68HC05.Action

/-! ## Events -/

/-- What happens to the interrupts of a device. -/
inductive InterruptEvent where
  /-- the external line is asserted after it was released -/
  | edge
  | served (line : InterruptLine)
  | reset
  deriving DecidableEq

namespace InterruptEvent

/-- An edge from before is used up or dropped. -/
def consumes : InterruptEvent → Bool
  | served .external => true
  | reset => true
  | _ => false

/-- The latch of the external line after an event. -/
def latch (latched : Bool) (event : InterruptEvent) : Bool :=
  event = edge || latched && !event.consumes

/-- The line that is served. -/
def served? : InterruptEvent → Option InterruptLine
  | served line => some line
  | _ => none

/-- There is an edge that no event since has consumed. -/
def EdgeWaits (events : List InterruptEvent) : Prop :=
  ∃ earlier later, events = earlier ++ edge :: later ∧ ∀ event ∈ later, event.consumes = false

theorem edgeWaits_cons (event : InterruptEvent) (events : List InterruptEvent) :
    EdgeWaits (event :: events) ↔
      EdgeWaits events ∨ event = edge ∧ ∀ event ∈ events, event.consumes = false := by
  constructor
  · rintro ⟨earlier, later, split, unused⟩
    cases earlier with
    | nil =>
      obtain ⟨rfl, rfl⟩ := List.cons.inj split
      exact .inr ⟨rfl, unused⟩
    | cons first earlier =>
      obtain ⟨rfl, rfl⟩ := List.cons.inj split
      exact .inl ⟨earlier, later, rfl, unused⟩
  · rintro (⟨earlier, later, rfl, unused⟩ | ⟨rfl, unused⟩)
    · exact ⟨event :: earlier, later, rfl, unused⟩
    · exact ⟨[], events, rfl, unused⟩

/-- The latch holds an edge that waits, or what it held before if nothing has consumed that. -/
theorem foldl_latch_iff (events : List InterruptEvent) (latched : Bool) :
    events.foldl latch latched = true ↔
      EdgeWaits events ∨ latched = true ∧ ∀ event ∈ events, event.consumes = false := by
  induction events generalizing latched with
  | nil =>
    have none : ¬ EdgeWaits [] := by
      rintro ⟨earlier, later, split, -⟩
      exact List.append_ne_nil_of_right_ne_nil earlier (List.cons_ne_nil _ later) split.symm
    simp [none]
  | cons event events ih =>
    rw [List.foldl_cons, ih, edgeWaits_cons, List.forall_mem_cons]
    cases event with
    | edge =>
      -- an edge makes up for any other that was latched before
      simp only [latch, consumes, decide_true, Bool.true_or, true_and]
      exact ⟨.inl, fun either => either.elim id fun before => .inr before.2⟩
    | served line => cases line <;> simp [latch, consumes]
    | reset => simp [latch, consumes]

/-- From a given latch on, the external line is served only when an edge is latched. -/
def Justified : Bool → List InterruptEvent → Prop
  | _, [] => True
  | latched, event :: events =>
    (event = served .external → latched = true) ∧ Justified (latch latched event) events

theorem justified_append {latched : Bool} {early late : List InterruptEvent} :
    Justified latched (early ++ late) ↔
      Justified latched early ∧ Justified (early.foldl latch latched) late := by
  induction early generalizing latched with
  | nil => simp [Justified]
  | cons event early ih =>
    rw [List.cons_append, Justified, Justified, ih, List.foldl_cons, and_assoc]

/-- Each service of the external line is for an edge of its own. -/
theorem Justified.edge_waits {events later : List InterruptEvent}
    (justified : Justified false (events ++ served .external :: later)) : EdgeWaits events := by
  have latched := (justified_append.mp justified).2.1 rfl
  rcases (foldl_latch_iff events false).mp latched with waits | ⟨before, -⟩
  · exact waits
  · cases before

/-- Between two services of the external line there is an edge. -/
theorem Justified.edge_between {latched : Bool} {earlier between later : List InterruptEvent}
    (justified : Justified latched
      (earlier ++ served .external :: (between ++ served .external :: later))) :
    edge ∈ between := by
  -- the first of the two services leaves nothing latched that the second could be for
  have afterFirst := (justified_append.mp justified).2.2
  have used : latch (earlier.foldl latch latched) (served .external) = false := by
    simp [latch, consumes]
  rw [used] at afterFirst
  obtain ⟨early, late, rfl, -⟩ := afterFirst.edge_waits
  exact List.mem_append_right early List.mem_cons_self

end InterruptEvent

open Device

/-! ## Where events come from -/

/-- The events of a step: the service that is due, and the reset that a watchdog asks for. -/
def Device.stepEvents (device : Device) : List InterruptEvent :=
  (device.interruptDue?.map .served).toList ++ if device.turned.resetDue = true then [.reset] else []

/-- The events of an operation of a board: its own, or those of the steps it makes. -/
def Operation.interruptEvents (operation : Operation) (device : Device) : List InterruptEvent :=
  match operation with
  | start => [.reset]
  | reset => [.reset]
  | setInputLine .interrupt asserted => if asserted && !device.lineAsserted then [.edge] else []
  | setInputLine .reset asserted => if asserted then [.reset] else []
  | operation => (operation.boundaries device).flatMap stepEvents

/-! ## The history accounts for the interrupts -/

/-- Between two devices, just these events happen to the interrupts. -/
structure Accounted (events : List InterruptEvent) (before after : Device) : Prop where
  latched : after.latched = events.foldl InterruptEvent.latch before.latched
  justified : InterruptEvent.Justified before.latched events
  wired : after.bench.acknowledgeWired = before.bench.acknowledgeWired
  acknowledged : before.bench.acknowledgeWired = true →
    after.bench.acknowledged =
      before.bench.acknowledged ++ events.filterMap InterruptEvent.served?
  /-- an edge alone wakes nobody up -/
  asleep : (∀ event ∈ events, event = .edge) → before.cpu.state ≠ .running →
    after.cpu.state = before.cpu.state

namespace Accounted

theorem trans {early late : List InterruptEvent} {a b c : Device} (first : Accounted early a b)
    (second : Accounted late b c) : Accounted (early ++ late) a c where
  latched := by rw [second.latched, first.latched, List.foldl_append]
  justified := by
    rw [InterruptEvent.justified_append, ← first.latched]
    exact ⟨first.justified, second.justified⟩
  wired := second.wired.trans first.wired
  acknowledged := by
    intro wired
    rw [second.acknowledged (first.wired.trans wired), first.acknowledged wired,
      List.filterMap_append, List.append_assoc]
  asleep := by
    intro edges sleeps
    have asleep := first.asleep (fun event member => edges event (List.mem_append_left _ member))
      sleeps
    have later := second.asleep (fun event member => edges event (List.mem_append_right _ member))
      (by rw [asleep]; exact sleeps)
    exact later.trans asleep

/-- What leaves the interrupt controller alone and wakes nobody up is not noted. -/
theorem quiet {before after : Device} (same : after.controller = before.controller)
    (asleep : before.cpu.state ≠ .running → after.cpu.state = before.cpu.state) :
    Accounted [] before after := by
  obtain ⟨latched, wired, acknowledged⟩ := Controller.mk.inj same
  exact ⟨latched, trivial, wired, fun _ => by rw [acknowledged]; simp, fun _ => asleep⟩

theorem account : Account Accounted where
  refl _ := quiet rfl fun _ => rfl
  trans := trans
  stop _ _ := quiet rfl fun _ => rfl
  grant _ _ := quiet rfl fun _ => rfl

theorem reset (device : Device) : Accounted [.reset] device (reset device).2 := by
  obtain ⟨latched, wired, acknowledged⟩ := Controller.mk.inj (controller_reset device)
  exact {
    latched := by
      rw [latched]
      simp [InterruptEvent.latch, InterruptEvent.consumes]
    justified := ⟨fun same => InterruptEvent.noConfusion same, trivial⟩
    wired
    acknowledged := by
      intro _
      rw [acknowledged]
      exact (List.append_nil _).symm
    asleep := fun edges => nomatch edges .reset List.mem_cons_self }

theorem charge (cycles : Nat) (device : Device) : Accounted [] device (charge cycles device).2 := by
  refine quiet (controller_charge cycles device) fun _ => ?_
  rw [charge_cpu]
  rfl

theorem entered {line : InterruptLine} {device : Device}
    (due : device.interruptDue? = some line) :
    Accounted [.served line] device (device.entered line) := by
  obtain ⟨-, priority, -⟩ := of_interruptDue due
  obtain ⟨latched, wired, acknowledged⟩ := entered_controller line device
  exact {
    latched := by
      rw [latched]
      cases line with
      | external => simp [InterruptEvent.latch, InterruptEvent.consumes]
      | timer => simp [InterruptEvent.latch, InterruptEvent.consumes]
    justified := ⟨fun external => priority.mp (InterruptEvent.served.inj external), trivial⟩
    wired
    acknowledged
    asleep := fun edges => nomatch edges (.served line) List.mem_cons_self }

theorem serveInterrupt (device : Device) :
    Accounted (device.interruptDue?.map .served).toList device (serveInterrupt device).2 := by
  rcases due : device.interruptDue? with _ | line
  · rw [serveInterrupt_idle due]
    exact account.refl device
  · rw [serveInterrupt_due due]
    exact (entered due).trans (charge interruptCycles _)

theorem runProcessor (device : Device) : Accounted [] device (runProcessor device).2 := by
  cases state : device.cpu.state with
  | running =>
    have fetched : (fetch device).2.controller = device.controller :=
      controller_programFlow.fetch device
    have performed := controller_programFlow.perform device.nextInstruction (fetch device).2
    have ran : Accounted [] device (perform device.nextInstruction (fetch device).2).2 :=
      quiet (performed.trans fetched) fun sleeps => absurd state sleeps
    rw [runProcessor_running state]
    exact ran.trans (charge _ _)
  | wait =>
    rw [runProcessor_wait state]
    exact charge idleCycles device
  | stop =>
    rw [runProcessor_stop state]
    exact quiet rfl fun _ => rfl

theorem step (device : Device) : Accounted device.stepEvents device (step device).2 := by
  have turned : Accounted (device.interruptDue?.map .served).toList device device.turned := by
    have both := (serveInterrupt device).trans (runProcessor (Device.serveInterrupt device).2)
    rw [List.append_nil] at both
    exact both
  unfold stepEvents
  rw [step_apply]
  dsimp only
  split
  · exact turned.trans (reset device.turned)
  · rw [List.append_nil]
    exact turned

theorem setInterruptLine (asserted : Bool) (device : Device) :
    Accounted (if asserted && !device.lineAsserted then [.edge] else []) device
      (setInterruptLine asserted device).2 := by
  unfold Device.setInterruptLine
  rw [bind_apply, get_apply]
  dsimp only
  rw [Action.ite_apply]
  split
  · exact {
      latched := by
        change decide ((device.pending ||| InterruptLine.external.bit) &&&
          InterruptLine.external.bit ≠ 0) = true
        rw [or_and_self16]
        decide
      justified := ⟨fun same => InterruptEvent.noConfusion same, trivial⟩
      wired := rfl
      acknowledged := fun _ => (List.append_nil _).symm
      asleep := fun _ _ => rfl }
  · exact quiet rfl fun _ => rfl

theorem setInputLine (line : InputLine) (asserted : Bool) (device : Device) :
    Accounted ((Operation.setInputLine line asserted).interruptEvents device) device
      (setInputLine line asserted device).2 := by
  cases line with
  | interrupt => exact setInterruptLine asserted device
  | capture =>
    have flow := controller_accessFlow.toFlow
    have driven : Moves (Same controller) (setCaptureLine asserted) :=
      flow.bind (controller_accessFlow.onTimer fun timer => timer.silent_setCaptureLevel asserted)
        fun _ => controller_accessFlow.refresh
    exact quiet (driven device) fun _ => rfl
  | reset =>
    cases asserted with
    | true => exact reset device
    | false => exact account.refl device

theorem start (device : Device) : Accounted [.reset] device (start device).2 := by
  let powered : Device := { device with
    started := true
    ports := device.ports.map Port.powerOn
    timer := device.timer.powerOn
    watchdog := device.watchdog.powerOn }
  have first : Accounted [] device powered := quiet rfl fun _ => rfl
  exact first.trans (reset powered)

theorem read (address : UInt16) (device : Device) :
    Accounted [] device (Device.read address .program device).2 := by
  have kept := read_cpu address .program device
  exact quiet (controller_accessFlow.read address device) fun _ => congrArg Cpu.state kept

theorem write (address : UInt16) (byte : UInt8) (device : Device) :
    Accounted [] device (Device.write address byte .program device).2 := by
  have kept := write_cpu address byte .program device
  exact quiet (controller_programFlow.write address byte device) fun _ => congrArg Cpu.state kept

/-- An operation of a board is accounted for. -/
theorem operation {operation : Operation} (board : operation.ofBoard = true) (device : Device) :
    Accounted (operation.interruptEvents device) device (operation.run device).2 := by
  cases operation with
  | start => exact start device
  | reset => exact reset device
  | setInputLine line asserted => exact setInputLine line asserted device
  | step => exact account.stepping step rfl device
  | execute cycles => exact account.stepping step rfl device
  | executeClocks clocks => exact account.stepping step rfl device
  | read address access =>
    have program : access = .program := of_decide_eq_true board
    rw [program]
    exact read address device
  | readWord address access =>
    have program : access = .program := of_decide_eq_true board
    rw [program]
    exact (read address device).trans (read (address + 1) _)
  | write address byte access =>
    have program : access = .program := of_decide_eq_true board
    rw [program]
    exact write address byte device
  | perform opcode => cases board
  | setRegister register value => cases board
  | symbolLines => cases board
  | takeHit => cases board

theorem run {operations : List Operation}
    (board : ∀ operation ∈ operations, operation.ofBoard = true) (device : Device) :
    Accounted (along Operation.interruptEvents operations device) device
      (runAll operations device) :=
  account.along (fun made member => operation (board made member)) device

end Accounted

/-! ## No interrupt is lost, repeated or made up -/

/-- What a step does about interrupts, from the device with which it begins. -/
structure Responsive (device : Device) : Prop where
  /-- an edge waits for nothing but the mask -/
  external : device.interruptDue? = some .external ↔
    device.cpu.flag .interruptMask = false ∧ device.pending &&& 0x0001 ≠ 0
  /-- the timer waits for edges and for the mask -/
  timer : device.interruptDue? = some .timer ↔
    device.cpu.flag .interruptMask = false ∧ device.pending &&& 0x0001 = 0 ∧
      device.pending &&& 0x0002 ≠ 0
  /-- the timer is pending as long as it requests -/
  requests : device.pending &&& 0x0002 ≠ 0 ↔ device.timer.requests = true
  /-- what is due is served -/
  served : ∀ line, device.interruptDue? = some line →
    Served line device (serveInterrupt device).2
  /-- saving the frame does not lose the line -/
  found : device.serveFramed? = some (serveInterrupt device)
  /-- nothing but a service or a reset wakes the processor up -/
  asleep : device.cpu.state ≠ .running → device.stepEvents = [] →
    (step device).2.cpu.state = device.cpu.state

theorem responsive {device : Device} (range : device.CpuInRange) (mirrors : device.Mirrors) :
    Responsive device where
  external := device.interruptDue_external_iff
  timer := device.interruptDue_timer_iff
  requests := mirrors.timer_bit
  served _ due := Device.served range mirrors due
  found := serveFramed_eq range
  asleep sleeps quiet := by
    have stepped := Accounted.step device
    rw [quiet] at stepped
    exact stepped.asleep (by simp) sleeps

/-- Take a device that a host can come by, with no edge latched, and let a board do with it whatever
a board does, while a program runs on it:

* in the end the external line's bit is pending exactly if an edge came after the latest of the
  beginning, the last service of the line and the last reset;
* between two services of the line there is an edge;
* the board hears of each service once, and of nothing else;
* each step begins with the service that is due: of the external line if interrupts are allowed and
  an edge is latched, of the timer if they are allowed, no edge is latched and the timer requests,
  and of none otherwise. What is served is served as `Device.Served` says, and a processor that
  waits or is stopped is not woken up by a step without a service and without a reset;
* nor do any operations wake it up among whose events there is neither a service nor a reset. -/
theorem Reachable.interrupts_accounted {device : Device} (reachable : Reachable device)
    (unlatched : device.pending &&& 0x0001 = 0) {operations : List Operation}
    (board : ∀ operation ∈ operations, operation.ofBoard = true) :
    let events := along Operation.interruptEvents operations device
    let after := runAll operations device
    (after.pending &&& 0x0001 ≠ 0 ↔ InterruptEvent.EdgeWaits events) ∧
      (∀ earlier between later, events =
          earlier ++ .served .external :: (between ++ .served .external :: later) →
        .edge ∈ between) ∧
      (device.bench.acknowledgeWired = true → after.bench.acknowledged =
        device.bench.acknowledged ++ events.filterMap InterruptEvent.served?) ∧
      (∀ boundary ∈ along Operation.boundaries operations device, Responsive boundary) ∧
      ∀ earlier later, operations = earlier ++ later →
        (runAll earlier device).cpu.state ≠ .running →
        (∀ event ∈ along Operation.interruptEvents later (runAll earlier device), event = .edge) →
        after.cpu.state = (runAll earlier device).cpu.state := by
  intro events after
  obtain ⟨latched, justified, -, acknowledged, -⟩ := Accounted.run board device
  have begun : device.latched = false := decide_eq_false (Decidable.not_not.mpr unlatched)
  rw [begun] at latched justified
  refine ⟨?_, fun earlier between later split => ?_, acknowledged, fun boundary member => ?_,
    fun earlier later split sleeps edges => ?_⟩
  · have waits := InterruptEvent.foldl_latch_iff events false
    simp only [Bool.false_eq_true, false_and, or_false] at waits
    rw [← latched, latched_iff] at waits
    exact waits
  · have all : InterruptEvent.Justified false events := justified
    rw [split] at all
    exact all.edge_between
  · have range := CpuInRange.operationFlow.boundaries operations reachable.sound.cpu
    have mirrors := Mirrors.hostFlow.operationFlow.boundaries operations reachable.mirrors
    exact responsive (range boundary member) (mirrors boundary member)
  · have rest : ∀ operation ∈ later, operation.ofBoard = true := by
      intro operation member
      exact board operation (by rw [split]; exact List.mem_append_right _ member)
    have whole : after = runAll later (runAll earlier device) := by
      rw [← runAll_append, ← split]
    rw [whole]
    exact (Accounted.run rest (runAll earlier device)).asleep edges sleeps

/-- A started part that allows interrupts and whose board listens to services. Its vectors lead to
port A, where the board shows the instruction that allows interrupts again. -/
def Device.listening : Device :=
  let started := (Operation.start.run (.new .c4 4000000)).2
  let allowing := (Operation.run (.setRegister .cc 0) started).2
  { (Operation.run (.setRegister (.input 0) 0x9A) allowing).2 with
    bench := Bench.bare.wireAcknowledge }

/-- An edge is served before a request of the timer that came with it, then the timer, and the next
edge waits. -/
theorem Reachable.interrupts_accounted_at_second_edge :
    let script := [.write 0x0012 0x82 .program, .setInputLine .interrupt true,
      .setInputLine .capture true, .step, .setInputLine .interrupt false, .step,
      .setInputLine .interrupt true]
    Reachable .listening ∧ Device.listening.pending &&& 0x0001 = 0 ∧
      (∀ operation ∈ script, operation.ofBoard = true) ∧
      (runAll script .listening).pending &&& 0x0001 ≠ 0 ∧
      (runAll script .listening).bench.acknowledged = [.external, .timer] := by
  intro script
  have started : Reachable (Operation.start.run (.new .c4 4000000)).2 := .operate .start (.new _ _)
  have shown := Reachable.operate (.setRegister (.input 0) 0x9A)
    (.operate (.setRegister .cc 0) started)
  have reachable : Reachable .listening := .arrange (.wire Bench.bare.wireAcknowledge) shown rfl
  have unlatched : Device.listening.pending &&& 0x0001 = 0 := by decide +kernel
  have board : ∀ operation ∈ script, operation.ofBoard = true := by decide
  have events : along Operation.interruptEvents script .listening =
      [.edge, .served .external, .served .timer, .edge] := by decide +kernel
  obtain ⟨waits, -, acknowledged, -⟩ := Reachable.interrupts_accounted reachable unlatched board
  rw [events] at waits acknowledged
  refine ⟨reachable, unlatched, board,
    waits.mpr ⟨[.edge, .served .external, .served .timer], [], rfl, ?_⟩, acknowledged rfl⟩
  exact fun _ member => nomatch member

end M68HC05
