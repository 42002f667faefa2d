import M68HC05.Proofs.Congruence
import M68HC05.Proofs.Reset

/-!
What happens in a step. `Device.eventsInStep` lists the events of a step in their order: the frame
and the vector of an interrupt that is taken, the fetch and the accesses of an instruction, the
cycles that are charged for either, and the reset that a watchdog has asked for. A relation between
devices that is labelled by such events needs to be shown for the building blocks only
(`StepAccount.step`), and with what a board does besides it holds over all operations of a board
(`BoardAccount.run`). Devices with the same guest go through the same events
(`Congruent.eventsInStep`).
-/

namespace M68HC05

open M68HC05.Action Device

/-- What may happen to a device. -/
inductive DeviceEvent where
  /-- power is applied -/
  | power
  | reset
  | access (made : BusAccess)
  /-- cycles are charged to the timer and the watchdogs -/
  | charged (cycles : Nat)
  /-- cycles pass without a clock for the timer and the watchdogs -/
  | idled (cycles : Nat)
  deriving DecidableEq

/-- Accesses as events. -/
def accessEvents (accesses : List BusAccess) : List DeviceEvent :=
  accesses.map .access

theorem accessEvents_append (early late : List BusAccess) :
    accessEvents (early ++ late) = accessEvents early ++ accessEvents late :=
  List.map_append

namespace Device

/-! ## Events of a step -/

/-- The accesses of reading a vector in ROM. -/
def vectorAccesses (vector : UInt16) (device : Device) : List BusAccess :=
  [⟨vector, .read, device.memory.read vector⟩,
    ⟨vector + 1, .read, device.memory.read (vector + 1)⟩]

/-- The events of taking an interrupt, if one is due. -/
def entryEvents (device : Device) : List DeviceEvent :=
  match device.interruptDue? with
  | some line =>
    accessEvents (pushAccesses device.cpu.sp (frameBytes device.cpu)) ++
      accessEvents (device.vectorAccesses line.vector) ++ [.charged interruptCycles]
  | none => []

/-- The events of a turn of the processor. -/
def turnEvents (device : Device) : List DeviceEvent :=
  match device.cpu.state with
  | .running =>
    accessEvents device.fetchAccesses ++
      accessEvents (device.nextInstruction.accesses (fetch device).2) ++
      [.charged device.nextInstruction.cycles]
  | .wait => [.charged idleCycles]
  | .stop => [.idled idleCycles]

/-- The events of a reset. -/
def resetEvents (device : Device) : List DeviceEvent :=
  .reset :: accessEvents (device.vectorAccesses resetVector)

/-- The events of a step. -/
def eventsInStep (device : Device) : List DeviceEvent :=
  device.entryEvents ++ (serveInterrupt device).2.turnEvents ++
    if device.turned.resetDue = true then device.turned.resetEvents else []

/-! ## Vectors -/

theorem readAccess_rom {device : Device} {address offset : UInt16}
    (place : busAddress address = address)
    (rom : device.variant.addressMap.reader? (busAddress address) = some (.rom, offset)) :
    device.readAccess address = ⟨address, .read, device.memory.read address⟩ := by
  unfold readAccess
  rw [read_rom rom, place]

theorem wordAccesses_rom {device : Device} {vector : UInt16}
    (places : busAddress vector = vector ∧ busAddress (vector + 1) = vector + 1)
    (high : ∃ offset, device.variant.addressMap.reader? (busAddress vector) = some (.rom, offset))
    (low : ∃ offset,
      device.variant.addressMap.reader? (busAddress (vector + 1)) = some (.rom, offset)) :
    device.wordAccesses vector = device.vectorAccesses vector := by
  obtain ⟨_, atHigh⟩ := high
  obtain ⟨_, atLow⟩ := low
  unfold wordAccesses vectorAccesses
  rw [readAccess_rom places.1 atHigh, read_rom atHigh]
  exact congrArg ([_, ·]) (readAccess_rom places.2 atLow)

/-- An interrupt reads the vector that was there before its frame was saved. -/
theorem wordAccesses_framed (line : InterruptLine) (device : Device) :
    (device.framed.signalled line).wordAccesses line.vector =
      device.vectorAccesses line.vector := by
  obtain ⟨high, low⟩ := vector_rom (device.framed.signalled line).variant line
  obtain ⟨outsideHigh, outsideLow⟩ := vector_outside_ram line
  have memory : (device.framed.signalled line).memory = device.framed.memory := rfl
  rw [wordAccesses_rom (busAddress_vector line) high low]
  unfold vectorAccesses
  rw [memory, framed_read device outsideHigh, framed_read device outsideLow]

theorem wordAccesses_cleared (device : Device) :
    device.cleared.wordAccesses resetVector = device.vectorAccesses resetVector := by
  obtain ⟨high, low⟩ := resetVector_rom device.cleared.variant
  exact wordAccesses_rom (by decide) high low

end Device

/-! ## Accounts of steps -/

/-- A relation between the devices before and after, labelled by the events in between, that composes
along lists and that the building blocks of steps stay in. -/
structure StepAccount (T : List DeviceEvent → Device → Device → Prop) : Prop where
  refl (device : Device) : T [] device device
  trans {early late : List DeviceEvent} {a b c : Device} :
    T early a b → T late b c → T (early ++ late) a c
  cpu (device : Device) {cpu : Cpu} (timeless : cpu.tick = device.cpu.tick) :
    T [] device { device with cpu }
  remark (text : Remark) (other : text ≠ .timeoutFlagCleared) : Moves (T []) (remark text)
  read (address : UInt16) (device : Device) :
    T [.access (device.readAccess address)] device (Device.read address .program device).2
  write (address : UInt16) (byte : UInt8) (device : Device) :
    T [.access (.write address byte)] device (Device.write address byte .program device).2
  signalled (line : InterruptLine) (device : Device) : T [] device (device.signalled line)
  charge (cycles : Nat) (device : Device) :
    T [.charged cycles] device (Device.charge cycles device).2
  idle (device : Device) :
    T [.idled idleCycles] device (changeCpu (·.addTicks idleCycles) device).2
  cleared (device : Device) : T [.reset] device device.cleared

namespace StepAccount

variable {T : List DeviceEvent → Device → Device → Prop}

/-- What makes no event may come before. -/
theorem after (account : StepAccount T) {events : List DeviceEvent} {a b c : Device}
    (quiet : T [] a b) (rest : T events b c) : T events a c :=
  account.trans quiet rest

/-- What makes no event may follow. -/
theorem quiet (account : StepAccount T) {events : List DeviceEvent} {a b c : Device}
    (first : T events a b) (rest : T [] b c) : T events a c := by
  have both := account.trans first rest
  rw [List.append_nil] at both
  exact both

theorem accesses (account : StepAccount T) :
    AccessAccount fun accesses => T (accessEvents accesses) where
  refl := account.refl
  trans first second := by
    rw [accessEvents_append]
    exact account.trans first second
  cpu := account.cpu
  remark := account.remark
  read := account.read
  write := account.write

theorem framed (account : StepAccount T) (device : Device) :
    T (accessEvents (pushAccesses device.cpu.sp (frameBytes device.cpu))) device device.framed := by
  have pushed := account.accesses.pushFrame device
  unfold Device.framed
  generalize (Device.pushFrame device).2 = after at pushed ⊢
  exact account.quiet pushed (account.cpu after rfl)

theorem entered (account : StepAccount T) (line : InterruptLine) (device : Device) :
    T (accessEvents (pushAccesses device.cpu.sp (frameBytes device.cpu)) ++
      accessEvents (device.vectorAccesses line.vector)) device (device.entered line) := by
  have jumped := account.accesses.jumpThrough line.vector (device.framed.signalled line)
  rw [wordAccesses_framed] at jumped
  refine account.trans (account.framed device) ?_
  unfold Device.entered
  generalize (jumpThrough line.vector (device.framed.signalled line)).2 = after at jumped ⊢
  exact account.after (account.signalled line device.framed)
    (account.quiet jumped (account.cpu after rfl))

theorem serveInterrupt (account : StepAccount T) (device : Device) :
    T device.entryEvents device (serveInterrupt device).2 := by
  unfold Device.entryEvents
  rcases due : device.interruptDue? with _ | line
  · rw [serveInterrupt_idle due]
    exact account.refl device
  · rw [serveInterrupt_due due]
    exact account.trans (account.entered line device) (account.charge interruptCycles _)

theorem runProcessor (account : StepAccount T) (device : Device) :
    T device.turnEvents device (runProcessor device).2 := by
  unfold Device.turnEvents
  cases state : device.cpu.state with
  | running =>
    rw [runProcessor_running state]
    have fetched := account.accesses.fetch device
    have performed := account.accesses.perform device.nextInstruction (Device.fetch device).2
    exact account.trans (account.trans fetched performed) (account.charge _ _)
  | wait =>
    rw [runProcessor_wait state]
    exact account.charge idleCycles device
  | stop =>
    rw [runProcessor_stop state]
    exact account.idle device

theorem reset (account : StepAccount T) (device : Device) :
    T device.resetEvents device (reset device).2 := by
  have jumped := account.accesses.jumpThrough resetVector device.cleared
  rw [wordAccesses_cleared] at jumped
  rw [reset_eq]
  exact account.trans (account.cleared device) jumped

/-- A step is accounted for by the events that are listed for it. -/
theorem step (account : StepAccount T) (device : Device) :
    T device.eventsInStep device (step device).2 := by
  have turned : T (device.entryEvents ++ (Device.serveInterrupt device).2.turnEvents)
      device device.turned :=
    account.trans (account.serveInterrupt device) (account.runProcessor _)
  rw [step_apply]
  unfold Device.eventsInStep
  dsimp only
  split
  · exact account.trans turned (account.reset device.turned)
  · exact account.trans turned (account.refl device.turned)

end StepAccount

/-! ## Operations of a board -/

/-- A device with power just applied, before its reset. -/
def Device.powered (device : Device) : Device :=
  { device with
    started := true
    ports := device.ports.map Port.powerOn
    timer := device.timer.powerOn
    watchdog := device.watchdog.powerOn }

/-- The events of an operation of a board: its own, or those of the steps it makes. -/
def Operation.events (operation : Operation) (device : Device) : List DeviceEvent :=
  match operation with
  | start => .power :: device.resetEvents
  | reset => device.resetEvents
  | setInputLine line asserted => if line = .reset ∧ asserted = true then device.resetEvents else []
  | read address _ => accessEvents [device.readAccess address]
  | readWord address _ => accessEvents (device.wordAccesses address)
  | write address byte _ => accessEvents [.write address byte]
  | operation => (operation.boundaries device).flatMap eventsInStep

/-- An account of steps that what a board does besides stays in, too. -/
structure BoardAccount (T : List DeviceEvent → Device → Device → Prop) : Prop
    extends StepAccount T where
  stop (device : Device) (breakpointHit : Bool) : T [] device { device with breakpointHit }
  grant (device : Device) (budget : Int64) : T [] device { device with budget }
  power (device : Device) : T [.power] device device.powered
  interruptLine (asserted : Bool) : Moves (T []) (setInterruptLine asserted)
  captureLine (level : Bool) : Moves (T []) (setCaptureLine level)

namespace BoardAccount

variable {T : List DeviceEvent → Device → Device → Prop}

theorem account (account : BoardAccount T) : Account T where
  refl := account.refl
  trans := account.trans
  stop := account.stop
  grant := account.grant

theorem setInputLine (account : BoardAccount T) (line : InputLine) (asserted : Bool)
    (device : Device) : T ((Operation.setInputLine line asserted).events device) device
      (setInputLine line asserted device).2 := by
  cases line with
  | interrupt => exact account.interruptLine asserted device
  | capture => exact account.captureLine asserted device
  | reset =>
    cases asserted with
    | true => exact account.reset device
    | false => exact account.refl device

/-- An operation of a board is accounted for by the events that are listed for it. -/
theorem operation (account : BoardAccount T) {operation : Operation}
    (board : operation.ofBoard = true) (device : Device) :
    T (operation.events device) device (operation.run device).2 := by
  cases operation with
  | start => exact account.trans (account.power device) (account.reset device.powered)
  | reset => exact account.reset device
  | setInputLine line asserted => exact account.setInputLine line asserted device
  | step => exact account.account.stepping account.step rfl device
  | execute cycles => exact account.account.stepping account.step rfl device
  | executeClocks clocks => exact account.account.stepping account.step rfl device
  | read address access =>
    have program : access = .program := of_decide_eq_true board
    rw [program]
    exact account.read address device
  | readWord address access =>
    have program : access = .program := of_decide_eq_true board
    rw [program]
    exact account.trans (account.read address device) (account.read (address + 1) _)
  | write address byte access =>
    have program : access = .program := of_decide_eq_true board
    rw [program]
    exact account.write address byte device
  | perform opcode => cases board
  | setRegister register value => cases board
  | symbolLines => cases board
  | takeHit => cases board

/-- So are all operations of a board. -/
theorem run (account : BoardAccount T) {operations : List Operation}
    (board : ∀ operation ∈ operations, operation.ofBoard = true) (device : Device) :
    T (along Operation.events operations device) device (runAll operations device) :=
  account.account.along (fun made member => account.operation (board made member)) device

end BoardAccount

/-! ## The same guest -/

namespace Congruent

variable {R : Device → Device → Prop} {d e : Device}

theorem entryEvents (congruent : Congruent R) (related : R d e) :
    d.entryEvents = e.entryEvents := by
  have cpu : d.cpu = e.cpu := congrArg Guest.cpu (congruent.guest related)
  have memory : d.memory = e.memory := congrArg Guest.memory (congruent.guest related)
  unfold Device.entryEvents Device.vectorAccesses
  rw [congruent.interruptDue related, cpu, memory]

theorem turnEvents (congruent : Congruent R) (related : R d e) : d.turnEvents = e.turnEvents := by
  have recorder := congruent.lockstep.writeRecorder
  have cpu : d.cpu = e.cpu := congrArg Guest.cpu (congruent.guest related)
  obtain ⟨opcode, fetches, fetched⟩ := recorder.fetch.alike related
  have same : d.nextInstruction = e.nextInstruction := congrArg Instruction.decode opcode
  obtain ⟨-, accesses, -⟩ := (recorder.perform e.nextInstruction).alike fetched
  unfold Device.turnEvents
  rw [cpu, same, fetches, accesses]

theorem resetEvents (congruent : Congruent R) (related : R d e) :
    d.resetEvents = e.resetEvents := by
  have memory : d.memory = e.memory := congrArg Guest.memory (congruent.guest related)
  unfold Device.resetEvents Device.vectorAccesses
  rw [memory]

/-- Devices with the same guest go through the same events in a step. -/
theorem eventsInStep (congruent : Congruent R) (related : R d e) :
    d.eventsInStep = e.eventsInStep := by
  obtain ⟨-, served⟩ := congruent.clocked.serveInterrupt related
  obtain ⟨-, turned⟩ := congruent.clocked.runProcessor served
  have due : d.turned.resetDue = e.turned.resetDue :=
    congrArg Guest.resetDue (congruent.guest turned)
  have resets : d.turned.resetEvents = e.turned.resetEvents := congruent.resetEvents turned
  unfold Device.eventsInStep
  rw [congruent.entryEvents related, congruent.turnEvents served, due, resets]

end Congruent
end M68HC05
