import M68HC05.Proofs.PortOperation
import M68HC05.Proofs.StepEvents

/-!
The exchange between a port and the board. What the board is to hear of a port is told without
looking into the operations (`PortEvent.exchanged`): a sample for each program read, and the value
and direction whenever the outputs of the port have changed, that is the direction register or the
latch where it is an output. Over any sequence of latch and direction writes, reads and accesses of
the bus, the board hears exactly that (`PortEvent.board_hears_each_change`).
-/

namespace M68HC05

open M68HC05.Action

/-! ## Events -/

/-- What may happen to the ports of a device. -/
inductive PortEvent where
  | operate (index : PortIndex) (operation : PortOperation)
  | read (address : UInt16) (access : Access)
  | write (address : UInt16) (byte : UInt8) (access : Access)

namespace PortEvent

/-- The device after an event. -/
def run : PortEvent → Device → Device
  | operate index operation, device => operation.run index device
  | read address access, device => (Device.read address access device).2
  | write address byte access, device => (Device.write address byte access device).2

/-- The device after events in order. -/
def after (events : List PortEvent) (device : Device) : Device :=
  events.foldl (fun device event => event.run device) device

/-- The operation that an event is, and its port. Accesses of the bus operate a port at its
registers; a direction register can be read without an operation. -/
def operation? : PortEvent → Option (PortIndex × PortOperation)
  | operate index operation => some (index, operation)
  | read address access => (Ports.dataAt? (busAddress address)).map (·, .sense access)
  | write address byte _ =>
    ((Ports.dataAt? (busAddress address)).map (·, .writeLatch byte)).or
      ((Ports.directionAt? (busAddress address)).map (·, .writeDirection byte))

end PortEvent

namespace PortEvent

variable {event : PortEvent} {index : PortIndex} {operation : PortOperation}

theorem run_operated (names : event.operation? = some (index, operation)) (device : Device) :
    Device.Operated index operation device (event.run device) := by
  cases event with
  | operate used made =>
    cases names
    exact ⟨device, Device.Aloof.flow.refl device, Device.Aloof.flow.refl _⟩
  | read address access =>
    obtain ⟨port, data, same⟩ := Option.map_eq_some_iff.mp names
    cases same
    exact (Device.read_operated data access device).2
  | write address byte access =>
    dsimp only [operation?] at names
    cases data : Ports.dataAt? (busAddress address) with
    | some port =>
      rw [data] at names
      cases names
      obtain ⟨offset, -, goes, rfl⟩ := device.variant.data_access data
      exact Device.write_operated goes fun _ => rfl
    | none =>
      rw [data] at names
      obtain ⟨port, direction, same⟩ := Option.map_eq_some_iff.mp names
      cases same
      obtain ⟨offset, goes, rfl⟩ := device.variant.direction_access direction
      exact Device.write_operated goes fun _ => rfl

theorem run_aloof (none : event.operation? = none) (device : Device) :
    Device.Aloof device (event.run device) := by
  cases event with
  | operate used made => cases none
  | read address access => exact Device.read_aloof (Option.map_eq_none_iff.mp none) device
  | write address byte access =>
    obtain ⟨data, direction⟩ := Option.or_eq_none_iff.mp none
    exact Device.write_aloof (Option.map_eq_none_iff.mp data) (Option.map_eq_none_iff.mp direction)
      device

/-! ## What the board hears of a port -/

/-- The program reads the data register of a port. -/
def Senses (index : PortIndex) (event : PortEvent) : Prop :=
  event.operation? = some (index, .sense .program)

instance (index : PortIndex) (event : PortEvent) : Decidable (event.Senses index) :=
  inferInstanceAs (Decidable (_ = _))

/-- What the board is to hear of a port at an event. -/
def exchanged (index : PortIndex) (event : PortEvent) (device : Device) : List Signal :=
  Port.exchanged index (event.Senses index) (device.ports.get index)
    ((event.run device).ports.get index)

/-- What the board is to hear of a port at events in order. -/
def exchanges (index : PortIndex) : List PortEvent → Device → List Signal
  | [], _ => []
  | event :: later, device =>
    event.exchanged index device ++ exchanges index later (event.run device)

end PortEvent

/-- The port that a signal is about. -/
def Signal.port? : Signal → Option PortIndex
  | sample port _ => some port
  | drive port _ _ => some port
  | _ => none

/-- The signals about a port that the board has heard, latest first. -/
def Bench.exchange (bench : Bench) (index : PortIndex) : List Signal :=
  bench.history.filter (·.port? = some index)

theorem Bench.Sent.exchange {signals : List Signal} {before after : Bench}
    (sent : Sent signals before after) (index : PortIndex) :
    after.exchange index =
      ((signals.filter (·.port? = some index)).filter before.hears).reverse ++
        before.exchange index := by
  unfold Bench.exchange
  rw [sent.history, List.filter_append, List.filter_reverse, List.filter_filter,
    List.filter_filter]
  simp only [Bool.and_comm]

namespace PortEvent

variable {event : PortEvent} {index : PortIndex} {device : Device}

/-- All that is exchanged at an operation is about its port. -/
theorem port_of_exchanged {operation : PortOperation} {used : PortIndex} {before after : Port}
    {signal : Signal} (member : signal ∈ operation.exchanged used before after) :
    signal.port? = some used := by
  rcases List.mem_append.mp member with sampled | driven
  · split at sampled
    · rw [List.mem_singleton.mp sampled]
      rfl
    · cases sampled
  · split at driven
    · rw [List.mem_singleton.mp driven]
      rfl
    · cases driven

theorem exchanged_of_operation {operation : PortOperation}
    (names : event.operation? = some (index, operation)) (device : Device) :
    event.exchanged index device = operation.exchanged index (device.ports.get index)
      ((event.run device).ports.get index) := by
  have senses : event.Senses index ↔ operation = .sense .program := by
    rw [Senses, names, Option.some.injEq, Prod.mk.injEq, and_iff_right rfl]
  unfold exchanged PortOperation.exchanged
  rw [decide_eq_decide.mpr senses]

/-- Nothing is exchanged with a port that does not change its outputs and is not read. -/
theorem exchanged_quiet (other : ¬ event.Senses index)
    (same : ((event.run device).ports.get index).outputs = (device.ports.get index).outputs) :
    event.exchanged index device = [] := by
  unfold exchanged
  rw [Port.exchanged_of_outputs same, decide_eq_false other]
  rfl

/-- An event tells the board of a port just what it is to hear. -/
theorem exchange_run (event : PortEvent) (index : PortIndex) (device : Device) :
    ∃ signals, Bench.Sent signals device.bench (event.run device).bench ∧
      signals.filter (·.port? = some index) = event.exchanged index device := by
  cases names : event.operation? with
  | none =>
    obtain ⟨ports, sent⟩ := run_aloof names device
    have other : ¬ event.Senses index := by
      rw [Senses, names]
      exact fun same => nomatch same
    exact ⟨[], sent, (exchanged_quiet other (by rw [ports])).symm⟩
  | some operated =>
    obtain ⟨used, operation⟩ := operated
    have operated := run_operated names device
    refine ⟨_, operated.sent, ?_⟩
    by_cases here : used = index
    · subst here
      rw [exchanged_of_operation names]
      exact List.filter_eq_self.mpr fun _ member => decide_eq_true (port_of_exchanged member)
    · have other : ¬ event.Senses index := by
        rw [Senses, names]
        rintro ⟨⟩
        exact here rfl
      rw [exchanged_quiet other (operated.outputs_other here)]
      refine List.filter_eq_nil_iff.mpr fun signal member => ?_
      rw [port_of_exchanged member, decide_eq_true_eq]
      exact fun same => here (Option.some.inj same)

/-- Over any events, the board hears of a port just what it is to hear. -/
theorem exchange_after (events : List PortEvent) (index : PortIndex) (device : Device) :
    ∃ signals, Bench.Sent signals device.bench (after events device).bench ∧
      signals.filter (·.port? = some index) = exchanges index events device := by
  induction events generalizing device with
  | nil => exact ⟨[], .refl device.bench, rfl⟩
  | cons event later ih =>
    obtain ⟨first, now, told⟩ := event.exchange_run index device
    obtain ⟨rest, next, retold⟩ := ih (event.run device)
    refine ⟨first ++ rest, now.trans next, ?_⟩
    rw [List.filter_append, told, retold]
    rfl

end PortEvent

/-! ## Power-on -/

namespace Device

/-- Clearing the registers in a reset tells the board nothing. -/
theorem cleared_unheard (device : Device) : Unheard device device.cleared := by
  have remarked : Bench.Sent [] device.bench
      (device.bench.add (.remark (.deviceReset device.variant))) :=
    device.bench.sent_add (.remark (.deviceReset device.variant))
  refine remarked.trans (unheard_record ?_ { device with
    bench := device.bench.add (.remark (.deviceReset device.variant)) })
  exact signalsOf_remarkIf _ _

/-- Power-on and reset tell the board nothing. -/
theorem start_unheard : Moves Unheard start := by
  intro device
  have cleared : Bench.Sent [] device.bench device.powered.cleared.bench :=
    cleared_unheard device.powered
  have high : Moves Aloof (Device.read resetVector .program) := read_aloof (by decide)
  have low : Moves Aloof (Device.read (resetVector + 1) .program) := read_aloof (by decide)
  have powers : start device = reset device.powered := rfl
  have jumped : (jumpThrough resetVector device.powered.cleared).2.bench =
      (Device.read (resetVector + 1) .program
        (Device.read resetVector .program device.powered.cleared).2).2.bench := rfl
  unfold Unheard
  rw [powers, reset_eq, jumped]
  exact (cleared.trans (high _).sent).trans (low _).sent

end Device

namespace PortEvent

variable {event : PortEvent} {index : PortIndex} {device : Device}

/-! ## Samples -/

/-- The byte that a read answers. -/
def answer? : PortEvent → Device → Option UInt8
  | operate index (.sense access), device => some (Device.readPort index access device).1
  | read address access, device => some (Device.read address access device).1
  | _, _ => none

theorem answer_of_senses (senses : event.Senses index) (device : Device) :
    event.answer? device = some (Device.readPort index .program device).1 := by
  cases event with
  | operate used operation =>
    cases senses
    rfl
  | read address access =>
    obtain ⟨port, data, same⟩ := Option.map_eq_some_iff.mp senses
    cases same
    exact congrArg some (Device.read_operated data .program device).1
  | write address byte access =>
    exfalso
    rcases Option.or_eq_some_iff.mp senses with written | ⟨-, written⟩
    · obtain ⟨port, -, same⟩ := Option.map_eq_some_iff.mp written
      cases same
    · obtain ⟨port, -, same⟩ := Option.map_eq_some_iff.mp written
      cases same

/-- A program read of a port with wired pins answers its outputs and what the board puts on its
inputs. -/
theorem readPort_answer {source : PinSource} (wired : device.bench.sources.get index = some source) :
    let port := device.ports.get index
    let pins := source (.sample index (~~~port.direction &&& port.bonded) :: device.bench.history)
    (Device.readPort index .program device).1 =
      (port.latch &&& port.direction) ||| (pins &&& port.bonded &&& ~~~port.direction) := by
  intro port pins
  have heard : device.bench.hears (.sample index port.inputMask) = true := by
    rw [Bench.hears, wired]
    rfl
  rw [Device.readPort_wired_apply wired]
  dsimp only
  rw [Ports.get_set, if_pos rfl, Bench.add, if_pos heard]
  rfl

/-- The board hears of a port what it is to hear, once each. From power-on, over any events and
whatever the board puts on the pins:

* the board has heard, in order, a sample of the inputs for each program read of the port, and the
  visible value and the direction for each event that has changed the outputs, and nothing else, as
  far as it is wired for them;
* a program read with wired pins answers the latch at outputs, and at the bonded inputs the sample
  that it takes. -/
theorem board_hears_each_change (device : Device) (events : List PortEvent) (index : PortIndex) :
    let start := (Device.start device).2
    let present := after events start
    present.bench.exchange index =
        ((exchanges index events start).filter device.bench.hears).reverse ++
          device.bench.exchange index ∧
      ∀ (event : PortEvent) (source : PinSource), event.Senses index →
        device.bench.sources.get index = some source →
          let port := present.ports.get index
          let pins := source
            (.sample index (~~~port.direction &&& port.bonded) :: present.bench.history)
          event.answer? present = some ((port.latch &&& port.direction) |||
            (pins &&& port.bonded &&& ~~~port.direction)) := by
  intro start present
  obtain ⟨signals, sent, told⟩ := exchange_after events index start
  have heard : Bench.Sent signals device.bench present.bench :=
    (Device.start_unheard device).trans sent
  constructor
  · rw [heard.exchange, told]
  · intro event source senses wired port pins
    have still : present.bench.sources.get index = some source := by
      rw [heard.sources]
      exact wired
    rw [answer_of_senses senses, readPort_answer still]

/-- Four pins of port A become outputs, and the latch is written twice, the second time with changes
at inputs only. The board hears of the direction and of the first latch, and answers a read. -/
theorem board_hears_each_change_at_port_a :
    let bench := (Bench.bare.wireInput 0 fun _ => 0x5A).wireOutput 0
    let device := { Device.new .c8 4000000 with bench }
    let present := after [.write 0x0004 0x0F .program, .write 0x0000 0x35 .program,
      .write 0x0000 0xF5 .program, .read 0x0000 .debugger] (Device.start device).2
    present.bench.exchange 0 = [.drive 0 0xF5 0x0F, .drive 0 0xFF 0x0F] ∧
      (read 0x0000 .program).answer? present = some 0x55 := by
  intro bench device present
  obtain ⟨heard, sampled⟩ := board_hears_each_change device [.write 0x0004 0x0F .program,
    .write 0x0000 0x35 .program, .write 0x0000 0xF5 .program, .read 0x0000 .debugger] 0
  constructor
  · refine heard.trans ?_
    decide +kernel
  · refine (sampled (.read 0x0000 .program) (fun _ => 0x5A) (by decide) rfl).trans ?_
    decide +kernel

end PortEvent
end M68HC05
