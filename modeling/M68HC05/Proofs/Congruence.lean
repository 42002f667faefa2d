import M68HC05.Proofs.Mirror

/-!
Devices with the same guest. A guest is what the program on the device lives in: registers, memory,
peripherals and pending interrupts. Everything an action does to a guest depends on the guest alone,
so a relation between devices with the same guest is respected by all that a device does as soon as
it survives what is done around the guest: entries on the bench, samples of pins, and accesses
reported to the watch list (`SameGuest`). What depends on the part besides are the accesses, by the
address map, and a few properties of it (`Congruent`); devices of the same part have all of them in
common (`SamePart.congruent`).
-/

namespace M68HC05

open M68HC05.Action Device

/-- What the program on a device lives in. -/
structure Guest where
  cpu : Cpu
  memory : Memory
  ports : Ports
  timer : Timer
  watchdog : Watchdog
  pending : UInt16
  lineAsserted : Bool
  started : Bool
  resetDue : Bool

namespace Device

/-- The guest of a device. -/
def guest (device : Device) : Guest where
  cpu := device.cpu
  memory := device.memory
  ports := device.ports
  timer := device.timer
  watchdog := device.watchdog
  pending := device.pending
  lineAsserted := device.lineAsserted
  started := device.started
  resetDue := device.resetDue

/-- The same device around another guest. -/
def withGuest (device : Device) (guest : Guest) : Device :=
  { device with
    cpu := guest.cpu
    memory := guest.memory
    ports := guest.ports
    timer := guest.timer
    watchdog := guest.watchdog
    pending := guest.pending
    lineAsserted := guest.lineAsserted
    started := guest.started
    resetDue := guest.resetDue }

/-- An action on the guest, which may give rise to a report. -/
def onGuest {α : Type} (operation : Guest → Outcome Guest α) : Action α :=
  fun device =>
    let outcome := operation device.guest
    (outcome.value,
      { device.withGuest outcome.next with bench := device.bench.record outcome.report })

end Device

/-- A relation between devices with the same guest that survives what is done around it, and changes
of the guest outside the memory. -/
structure SameGuest (R : Device → Device → Prop) : Prop where
  guest {d e : Device} : R d e → d.guest = e.guest
  withGuest {d e : Device} (guest : Guest) (memory : guest.memory = d.memory) :
    R d e → R (d.withGuest guest) (e.withGuest guest)
  add {d e : Device} (entry : Entry) :
    R d e → R { d with bench := d.bench.add entry } { e with bench := e.bench.add entry }
  sample (index : PortIndex) (mask : UInt8) : Respects R (modifyGet fun device =>
    let (pins?, bench) := device.bench.sample index mask
    (pins?, { device with bench }))
  observe (address : UInt16) (made : WatchKind) (byte : UInt8) (previous : Option UInt8) :
    Respects R (observe address made byte previous)

namespace SameGuest

variable {R : Device → Device → Prop} {α : Type}

/-! ## Actions on the guest -/

theorem record (same : SameGuest R) (report : List Entry) {d e : Device} (related : R d e) :
    R { d with bench := d.bench.record report } { e with bench := e.bench.record report } := by
  induction report generalizing d e with
  | nil => exact related
  | cons entry report ih => exact ih (same.add entry related)

theorem onGuest (same : SameGuest R) (operation : Guest → Outcome Guest α)
    (keeps : ∀ guest, (operation guest).next.memory = guest.memory) :
    Respects R (onGuest operation) := by
  intro d e related
  have guests := same.guest related
  have kept := keeps d.guest
  unfold Device.onGuest
  dsimp only
  rw [guests] at kept ⊢
  have memory : e.guest.memory = d.memory := congrArg Guest.memory guests.symm
  exact ⟨rfl, same.record _ (same.withGuest _ (kept.trans memory) related)⟩

/-- A change of the guest. -/
theorem change (same : SameGuest R) (change : Guest → Guest)
    (keeps : ∀ guest, (change guest).memory = guest.memory) :
    Respects R (modify fun device => device.withGuest (change device.guest)) :=
  same.onGuest (fun guest => ⟨(), change guest, []⟩) keeps

/-- What follows a look at the device may depend on its guest. -/
theorem look (same : SameGuest R) {next : Device → Action α}
    (each : ∀ device, Respects R (next device))
    (alike : ∀ {d e : Device}, d.guest = e.guest → next d = next e) :
    Respects R (get >>= next) :=
  Respects.get (fun related => alike (same.guest related)) each

theorem onTimer (same : SameGuest R) (operation : Timer → Outcome Timer α) :
    Respects R (onTimer operation) :=
  same.onGuest (fun guest =>
    let outcome := operation guest.timer
    ⟨outcome.value, { guest with timer := outcome.next }, outcome.report⟩) fun _ => rfl

theorem onWatchdog (same : SameGuest R) (operation : Watchdog → Outcome Watchdog α) :
    Respects R (onWatchdog operation) :=
  same.onGuest (fun guest =>
    let outcome := operation guest.watchdog
    ⟨outcome.value, { guest with watchdog := outcome.next }, outcome.report⟩) fun _ => rfl

theorem onPort (same : SameGuest R) (index : PortIndex)
    (operation : Port → Outcome Port α) : Respects R (onPort index operation) :=
  same.onGuest (fun guest =>
    let outcome := operation (guest.ports.get index)
    ⟨outcome.value, { guest with ports := guest.ports.setIfInBounds index outcome.next },
      outcome.report⟩) fun _ => rfl

theorem refresh (same : SameGuest R) : Respects R refreshTimerRequest :=
  same.change (fun guest =>
    { guest with pending := mirrored guest.pending guest.timer.requests }) fun _ => rfl

theorem changeCpu (same : SameGuest R) (f : Cpu → Cpu) : Respects R (changeCpu f) :=
  same.change (fun guest => { guest with cpu := f guest.cpu }) fun _ => rfl

theorem changeTimer (same : SameGuest R) (f : Timer → Timer) : Respects R (changeTimer f) :=
  same.change (fun guest => { guest with timer := f guest.timer }) fun _ => rfl

theorem changeWatchdog (same : SameGuest R) (f : Watchdog → Watchdog) :
    Respects R (changeWatchdog f) :=
  same.change (fun guest => { guest with watchdog := f guest.watchdog }) fun _ => rfl

theorem changePort (same : SameGuest R) (n : Nat) (f : Port → Port) :
    Respects R (changePort n f) :=
  same.change (fun guest => { guest with
    ports :=
      guest.ports.setIfInBounds (Ports.wrapIndex n) (f (guest.ports.get (Ports.wrapIndex n))) })
    fun _ => rfl

theorem remark (same : SameGuest R) (text : Remark) : Respects R (remark text) :=
  fun _ _ related => ⟨rfl, same.add _ related⟩

theorem signal (same : SameGuest R) (sent : Signal) : Respects R (signal sent) :=
  fun _ _ related => ⟨rfl, same.add _ related⟩

/-! ## Accesses -/

theorem readPort (same : SameGuest R) (index : PortIndex) (access : Access) :
    Respects R (readPort index access) := by
  have rest : Respects R (do return ((← get).ports.get index).value) := by
    refine same.look (fun _ => .pure _) fun {d e} guests => ?_
    have ports : d.ports = e.ports := congrArg Guest.ports guests
    rw [ports]
  unfold Device.readPort
  refine .ite (fun _ => ?_) fun _ => rest
  refine same.look (fun device => ?_) fun {d e} guests => ?_
  · refine (same.sample index _).bind fun pins? => ?_
    cases pins? with
    | none => exact rest
    | some pins => exact (same.onPort index _).bind fun _ => rest
  · have ports : d.ports = e.ports := congrArg Guest.ports guests
    rw [ports]

theorem readHandler (same : SameGuest R) (handler : Handler) (offset address : UInt16)
    (access : Access) : Respects R (readHandler handler offset address access) := by
  have look (f : Guest → UInt8) : Respects R (do return f (← get).guest) :=
    same.look (fun _ => .pure _) fun guests => by rw [guests]
  unfold Device.readHandler
  cases handler with
  | portData => exact same.readPort _ access
  | portDirection =>
    exact look fun guest => (guest.ports.get (Ports.wrapIndex offset.toNat)).direction
  | timerControl => exact look fun guest => guest.timer.control
  | timerStatus => exact same.onTimer _
  | inputCapture => exact (same.onTimer _).seqLeft same.refresh
  | outputCompare => exact (same.onTimer _).seqLeft same.refresh
  | counter => exact (same.onTimer _).seqLeft same.refresh
  | watchdogControl => exact same.onWatchdog _
  | rom => exact look fun guest => guest.memory.read address
  | ram => exact look fun guest => guest.memory.read address
  | watchdogKey => exact .pure _
  | watchdogClear => exact .pure _

/-- A write that reaches memory is respected if the store is. -/
theorem writeHandler (same : SameGuest R) {handler : Handler} {address : UInt16} {byte : UInt8}
    {access : Access} (offset : UInt16)
    (stores : handler = .ram ∨ handler = .rom ∧ access = .debugger →
      Respects R (store address byte)) :
    Respects R (writeHandler handler offset address byte access) := by
  unfold Device.writeHandler
  cases handler with
  | portData => exact same.onPort _ _
  | portDirection => exact same.onPort _ _
  | timerControl => exact (same.onTimer _).seqRight same.refresh
  | outputCompare => exact (same.onTimer _).seqRight same.refresh
  | watchdogKey =>
    cases access with
    | debugger => exact same.changeWatchdog (·.setKey byte)
    | program => exact same.onWatchdog _
  | watchdogControl => exact same.onWatchdog _
  | watchdogClear =>
    cases access with
    | debugger => exact .pure ()
    | program => exact same.onWatchdog _
  | ram => exact stores (.inl rfl)
  | rom =>
    cases access with
    | debugger => exact stores (.inr ⟨rfl, rfl⟩)
    | program => exact .pure ()
  | timerStatus => exact .pure ()
  | inputCapture => exact .pure ()
  | counter => exact .pure ()

/-- The answer of a read, after it is reported. -/
theorem report (same : SameGuest R) (address : UInt16) (access : Access) (byte : UInt8) :
    Respects R (do
      if access = .program then
        Device.observe address .read byte none
      return byte) := by
  refine .ite (fun _ => ?_) fun _ => .pure byte
  exact (same.observe _ _ byte none).bind fun _ => .pure byte

/-- A read goes on alike if it goes to the same place on both devices. -/
theorem read_of_reader (same : SameGuest R) {address : UInt16} (access : Access) {d e : Device}
    (related : R d e) (goes : d.variant.addressMap.reader? (busAddress address) =
      e.variant.addressMap.reader? (busAddress address)) :
    (Device.read address access d).1 = (Device.read address access e).1 ∧
      R (Device.read address access d).2 (Device.read address access e).2 := by
  have rest := same.report (busAddress address) access
  unfold Device.read
  rw [bind_apply, bind_apply, get_apply, get_apply]
  dsimp only
  rw [goes]
  rcases e.variant.addressMap.reader? (busAddress address) with _ | ⟨handler, offset⟩
  · exact rest 0xFF related
  · exact (same.readHandler handler offset _ access).bind rest related

/-- So does a write, if memory that it reaches takes the byte alike. -/
theorem write_of_writer (same : SameGuest R) {address : UInt16} {byte : UInt8} (access : Access)
    {d e : Device} (related : R d e) (goes : d.variant.addressMap.writer? (busAddress address) =
      e.variant.addressMap.writer? (busAddress address))
    (stores : ∀ handler offset,
      e.variant.addressMap.writer? (busAddress address) = some (handler, offset) →
        handler = .ram ∨ handler = .rom ∧ access = .debugger →
          Respects R (store (busAddress address) byte)) :
    (Device.write address byte access d).1 = (Device.write address byte access e).1 ∧
      R (Device.write address byte access d).2 (Device.write address byte access e).2 := by
  have passed {first second : Device} (related : R first second)
      (left : first.variant = d.variant) (right : second.variant = e.variant) :
      (passWrite (busAddress address) byte access first).1 =
          (passWrite (busAddress address) byte access second).1 ∧
        R (passWrite (busAddress address) byte access first).2
          (passWrite (busAddress address) byte access second).2 := by
    unfold Device.passWrite
    rw [bind_apply, bind_apply, get_apply, get_apply]
    dsimp only
    rw [left, right, goes]
    rcases place : e.variant.addressMap.writer? (busAddress address) with _ | ⟨handler, offset⟩
    · exact ⟨rfl, related⟩
    · exact same.writeHandler offset (stores handler offset place) related
  have memory : d.memory = e.memory := congrArg Guest.memory (same.guest related)
  cases access with
  | debugger => exact passed related rfl rfl
  | program =>
    let previous := some (e.memory.read (busAddress address))
    obtain ⟨-, reported⟩ := same.observe (busAddress address) .write byte previous related
    have whole := passed reported rfl rfl
    unfold Device.write
    simp only [if_true, bind_apply, get_apply, memory, true_and]
    exact whole.2

end SameGuest

/-- A relation between devices with the same guest that bus accesses respect. The devices may be of
different parts, as long as these have the same watchdogs, interrupts and names of registers. -/
structure Congruent (R : Device → Device → Prop) : Prop extends SameGuest R where
  read (address : UInt16) (access : Access) : Respects R (Device.read address access)
  write (address : UInt16) (byte : UInt8) : Respects R (Device.write address byte .program)
  named : Respects R (get >>= fun device => Device.remark (.deviceReset device.variant))
  watchdogs {d e : Device} : R d e → d.variant.watchdogs = e.variant.watchdogs
  vectors {d e : Device} :
    R d e → d.variant.vectorsExternalLine = e.variant.vectorsExternalLine
  names {d e : Device} : R d e → symbolLinesOf d.variant = symbolLinesOf e.variant

namespace Congruent

variable {R : Device → Device → Prop} {α : Type}

/-! ## Steps -/

theorem lockstep (congruent : Congruent R) : Lockstep R where
  cpu related := congrArg Guest.cpu (congruent.guest related)
  lineAsserted related := congrArg Guest.lineAsserted (congruent.guest related)
  changeCpu change _ := congruent.changeCpu change
  remark text _ := congruent.remark text
  read address := congruent.read address .program
  write address byte := congruent.write address byte

theorem charge (congruent : Congruent R) (cycles : Nat) : Respects R (charge cycles) := by
  unfold Device.charge
  refine (congruent.changeCpu _).bind fun _ => (congruent.onTimer _).bind fun _ => ?_
  refine congruent.refresh.bind fun _ => ?_
  refine Respects.get (fun related => by rw [congruent.watchdogs related]) fun device => ?_
  refine (congruent.onWatchdog _).bind fun _ => .ite (fun _ => ?_) fun _ => .pure ()
  exact congruent.change (fun guest => { guest with resetDue := true }) fun _ => rfl

theorem reset (congruent : Congruent R) : Respects R reset := by
  have latched : Respects R latchMaskOption := by
    unfold latchMaskOption
    intro d e related
    have fitted : d.variant.hasFixedWatchdog = e.variant.hasFixedWatchdog :=
      congrArg WatchdogKinds.fixed (congruent.watchdogs related)
    have memory : d.memory = e.memory := congrArg Guest.memory (congruent.guest related)
    rw [bind_apply, bind_apply, get_apply, get_apply]
    dsimp only
    rw [fitted, memory]
    exact Respects.ite (fun _ => congruent.onWatchdog _) (fun _ => .pure ()) related
  unfold Device.reset
  rw [← bind_assoc]
  refine congruent.named.bind fun _ => Respects.bind ?_ fun _ => latched.bind fun _ => ?_
  · exact congruent.change (fun guest => { guest with
      cpu := guest.cpu.reset
      pending := 0
      resetDue := false
      ports := guest.ports.map Port.reset
      timer := guest.timer.reset
      watchdog := guest.watchdog.reset }) fun _ => rfl
  · exact congruent.refresh.bind fun _ => congruent.lockstep.jumpThrough resetVector

theorem interruptDue (congruent : Congruent R) {d e : Device} (related : R d e) :
    d.interruptDue? = e.interruptDue? := by
  have vectors := congruent.vectors related
  have cpu : d.cpu = e.cpu := congrArg Guest.cpu (congruent.guest related)
  have pending : d.pending = e.pending := congrArg Guest.pending (congruent.guest related)
  unfold interruptDue?
  rw [vectors, cpu, pending]

theorem clocked (congruent : Congruent R) : Clocked R where
  toLockstep := congruent.lockstep
  resetDue related := congrArg Guest.resetDue (congruent.guest related)
  interruptDue := congruent.interruptDue
  acknowledge line := congruent.signal (.acknowledge line)
  consume := congruent.change (fun guest =>
    { guest with pending := guest.pending &&& ~~~InterruptLine.external.bit }) fun _ => rfl
  charge := congruent.charge
  idle := congruent.changeCpu _
  reset := congruent.reset

/-! ## What a host asks -/

theorem start (congruent : Congruent R) : Respects R start := by
  unfold Device.start
  refine Respects.bind ?_ fun _ => congruent.reset
  exact congruent.change (fun guest => { guest with
    started := true
    ports := guest.ports.map Port.powerOn
    timer := guest.timer.powerOn
    watchdog := guest.watchdog.powerOn }) fun _ => rfl

theorem setInputLine (congruent : Congruent R) (line : InputLine) (asserted : Bool) :
    Respects R (setInputLine line asserted) := by
  have last : Respects R (modify fun device => { device with lineAsserted := asserted }) :=
    congruent.change (fun guest => { guest with lineAsserted := asserted }) fun _ => rfl
  unfold Device.setInputLine
  cases line with
  | interrupt =>
    unfold Device.setInterruptLine
    refine congruent.look (fun device => .ite (fun _ => ?_) fun _ => last) fun {d e} same => ?_
    · refine (congruent.remark _).bind fun _ => Respects.bind ?_ fun _ => last
      exact congruent.change (fun guest =>
        { guest with pending := guest.pending ||| InterruptLine.external.bit }) fun _ => rfl
    · have line : d.lineAsserted = e.lineAsserted := congrArg Guest.lineAsserted same
      rw [line]
  | capture =>
    unfold Device.setCaptureLine
    exact (congruent.onTimer _).bind fun _ => congruent.refresh
  | reset => exact .ite (fun _ => congruent.reset) fun _ => .pure ()

theorem setRegister (congruent : Congruent R) (register : Register) (value : UInt32) :
    Respects R (setRegister register value) := by
  unfold Device.setRegister
  cases register with
  | pc => exact congruent.changeCpu _
  | sp => exact congruent.changeCpu _
  | a => exact congruent.changeCpu _
  | x => exact congruent.changeCpu _
  | cc => exact congruent.changeCpu _
  | latch n => exact congruent.changePort n _
  | input n => exact congruent.changePort n _
  | direction n => exact .ite (fun _ => congruent.changePort n _) fun _ => congruent.remark _
  | timerControl => exact (congruent.changeTimer _).seqRight congruent.refresh
  | timerStatus => exact (congruent.changeTimer _).seqRight congruent.refresh
  | watchdogKey => exact congruent.changeWatchdog _
  | watchdogControl => exact congruent.changeWatchdog _
  | programmableCount => exact congruent.changeWatchdog _
  | fixedEnable => exact congruent.onWatchdog _
  | fixedCount => exact congruent.changeWatchdog _
  | _ => exact congruent.changeTimer _

theorem symbolLines (congruent : Congruent R) : Respects R symbolLines :=
  respects_symbolLines congruent.names fun address => congruent.read address .debugger

end Congruent

/-! ## The same part -/

/-- A relation between devices of the same part with the same guest that survives changes of the
guest, and what is done around it. -/
structure SamePart (R : Device → Device → Prop) : Prop where
  variant {d e : Device} : R d e → d.variant = e.variant
  guest {d e : Device} : R d e → d.guest = e.guest
  withGuest {d e : Device} (guest : Guest) : R d e → R (d.withGuest guest) (e.withGuest guest)
  add {d e : Device} (entry : Entry) :
    R d e → R { d with bench := d.bench.add entry } { e with bench := e.bench.add entry }
  sample (index : PortIndex) (mask : UInt8) : Respects R (modifyGet fun device =>
    let (pins?, bench) := device.bench.sample index mask
    (pins?, { device with bench }))
  observe (address : UInt16) (made : WatchKind) (byte : UInt8) (previous : Option UInt8) :
    Respects R (observe address made byte previous)

namespace SamePart

variable {R : Device → Device → Prop}

theorem sameGuest (part : SamePart R) : SameGuest R where
  guest := part.guest
  withGuest guest _ := part.withGuest guest
  add := part.add
  sample := part.sample
  observe := part.observe

theorem store (part : SamePart R) (address : UInt16) (byte : UInt8) :
    Respects R (store address byte) := by
  intro d e related
  have memory : d.memory = e.memory := congrArg Guest.memory (part.guest related)
  have stored := part.withGuest
    { d.guest with memory := d.memory.write address byte } related
  have right : e.withGuest { d.guest with memory := d.memory.write address byte } =
      { e with memory := e.memory.write address byte } := by
    rw [part.guest related, memory]
    rfl
  rw [right] at stored
  exact ⟨rfl, stored⟩

theorem write (part : SamePart R) (address : UInt16) (byte : UInt8) (access : Access) :
    Respects R (Device.write address byte access) :=
  fun _ _ related => part.sameGuest.write_of_writer access related
    (by rw [part.variant related]) fun _ _ _ _ => part.store _ byte

theorem congruent (part : SamePart R) : Congruent R where
  toSameGuest := part.sameGuest
  read _ access _ _ related :=
    part.sameGuest.read_of_reader access related (by rw [part.variant related])
  write address byte := part.write address byte .program
  named := Respects.get (fun related => by rw [part.variant related])
    fun _ => part.sameGuest.remark _
  watchdogs related := by rw [part.variant related]
  vectors related := by rw [part.variant related]
  names related := by rw [part.variant related]

end SamePart
end M68HC05
