import M68HC05.Proofs.Clocks
import M68HC05.Proofs.Glance
import M68HC05.Proofs.Timeout
import M68HC05.Proofs.WatchdogEvents

/-!
The watchdogs of a part under the program that they supervise. All that a program and its board can
do to the watchdogs are the events that the history of the device shows, access by access and charge
by charge (`Device.Supervised`); debugger reads do nothing to them. So what a guest can and cannot do
to the watchdogs can be read off single events: none but power and reset disarms the programmable
one, none but these moves the switch of the other one, and none but power and a program read of the
control register takes the timeout flag down.

The main statement is `Device.guest_keeps_watchdogs`.
-/

namespace M68HC05

open M68HC05.Action

/-! ## Where the watchdogs are -/

/-- The control register of the programmable watchdog. -/
def controlAddress : UInt16 := 0x001E

namespace Variant

variable {variant : Variant} {address offset : UInt16}

theorem control_of_reader
    (goes : variant.addressMap.reader? address = some (.watchdogControl, offset)) :
    address = controlAddress := by
  refine AddressMap.eq_of_reader? goes ?_
  cases variant with
  | _ => decide

theorem writer_control (fitted : variant.hasProgrammableWatchdog = true) :
    variant.addressMap.writer? controlAddress = some (.watchdogControl, 0) := by
  cases variant with
  | c8a => rfl
  | _ => cases fitted

theorem control_of_writer
    (goes : variant.addressMap.writer? address = some (.watchdogControl, offset)) :
    address = controlAddress := by
  refine AddressMap.eq_of_writer? goes ?_
  cases variant with
  | _ => decide

end Variant

/-- The accesses that reach a register of the watchdogs go to it. -/
def BusAccess.onWatchdogs (access : BusAccess) : List WatchdogEvent :=
  if access.made = .read then
    if access.address = controlAddress then [.controlRead .program] else []
  else if access.address = keyAddress then [.keyWritten access.byte]
  else if access.address = controlAddress then [.controlWritten access.byte]
  else if access.address = clearAddress then [.clearWritten access.byte]
  else []

theorem BusAccess.onWatchdogs_write (address : UInt16) (byte : UInt8) :
    (BusAccess.write address byte).onWatchdogs =
      if busAddress address = keyAddress then [.keyWritten byte]
      else if busAddress address = controlAddress then [.controlWritten byte]
      else if busAddress address = clearAddress then [.clearWritten byte]
      else [] :=
  rfl

namespace DeviceEvent

/-- What an event is to the watchdogs of a part that has both. A reset takes over the mask
option. -/
def onWatchdogs (option : Bool) : DeviceEvent → List WatchdogEvent
  | power => [.power]
  | reset => [.reset, .switched option]
  | access made => made.onWatchdogs
  | charged cycles => [.charged cycles]
  | idled _ => []

/-- The device begins anew in the event. -/
def restarts : DeviceEvent → Bool
  | power => true
  | reset => true
  | _ => false

/-- The event is a program read of the control register of the programmable watchdog. -/
def readsControl : DeviceEvent → Bool
  | access made => made.made = .read ∧ made.address = controlAddress
  | _ => false

end DeviceEvent

namespace Watchdog

/-- The watchdogs of a part that has both, after some events of the device. -/
def onBoard (option : Bool) (events : List DeviceEvent) (watchdog : Watchdog) : Watchdog :=
  watchdog.replay ⟨true, true⟩ (events.flatMap (DeviceEvent.onWatchdogs option))

theorem onBoard_append (option : Bool) (early late : List DeviceEvent) (watchdog : Watchdog) :
    watchdog.onBoard option (early ++ late) =
      (watchdog.onBoard option early).onBoard option late := by
  unfold onBoard
  rw [List.flatMap_append, replay_append]

theorem onBoard_cons (option : Bool) (event : DeviceEvent) (events : List DeviceEvent)
    (watchdog : Watchdog) :
    watchdog.onBoard option (event :: events) =
      (watchdog.onBoard option [event]).onBoard option events :=
  watchdog.onBoard_append option [event] events

theorem onBoard_singleton (option : Bool) (event : DeviceEvent) (watchdog : Watchdog) :
    watchdog.onBoard option [event] = watchdog.replay ⟨true, true⟩ (event.onWatchdogs option) := by
  unfold onBoard
  rw [List.flatMap_singleton]

end Watchdog

namespace Device

variable {device : Device} {address : UInt16}

/-! ## Accesses -/

theorem watchdog_read (part : device.variant = .c8a) (address : UInt16) :
    (Device.read address .program device).2.watchdog =
      device.watchdog.replay ⟨true, true⟩ (device.readAccess address).onWatchdogs := by
  have at_control (there : busAddress address = controlAddress) :
      device.variant.addressMap.reader? (busAddress address) = some (.watchdogControl, 0) := by
    rw [part, there]
    rfl
  by_cases there : busAddress address = controlAddress
  · obtain ⟨watches, bench, same⟩ := read_handled (at_control there)
    have reads : (device.readAccess address).onWatchdogs = [.controlRead .program] := if_pos there
    rw [same, reads]
    rfl
  · have reads : (device.readAccess address).onWatchdogs = [] := if_neg there
    rw [reads]
    rcases goes : device.variant.addressMap.reader? (busAddress address) with
      _ | ⟨handler, offset⟩
    · obtain ⟨watches, bench, same⟩ := read_unhandled goes
      rw [same]
      rfl
    · obtain ⟨watches, bench, same⟩ := read_handled goes
      have other : handler ≠ .watchdogControl := by
        intro control
        rw [control] at goes
        exact there (Variant.control_of_reader goes)
      rw [same]
      exact watchdog_readHandler other offset (busAddress address) .program device

theorem watchdog_writeHandler {handler : Handler} (notKey : handler ≠ .watchdogKey)
    (notControl : handler ≠ .watchdogControl) (notClear : handler ≠ .watchdogClear)
    (offset address : UInt16) (byte : UInt8) (access : Access) :
    Moves (Same watchdog) (writeHandler handler offset address byte access) := by
  unfold writeHandler
  cases handler with
  | watchdogKey => exact absurd rfl notKey
  | watchdogControl => exact absurd rfl notControl
  | watchdogClear => exact absurd rfl notClear
  | rom =>
    cases access with
    | program => exact fun _ => rfl
    | debugger => exact fun _ => rfl
  | _ => exact fun _ => rfl

theorem watchdog_write (part : device.variant = .c8a) (address : UInt16) (byte : UInt8) :
    (Device.write address byte .program device).2.watchdog =
      device.watchdog.replay ⟨true, true⟩ (BusAccess.write address byte).onWatchdogs := by
  have fitted : device.variant.hasProgrammableWatchdog = true := by rw [part]; rfl
  rw [BusAccess.onWatchdogs_write]
  by_cases key : busAddress address = keyAddress
  · have goes := Variant.writer_key fitted
    rw [← key] at goes
    obtain ⟨watches, bench, same⟩ := write_handled goes byte
    rw [same, if_pos key]
    rfl
  by_cases control : busAddress address = controlAddress
  · have goes := Variant.writer_control fitted
    rw [← control] at goes
    obtain ⟨watches, bench, same⟩ := write_handled goes byte
    rw [same, if_neg key, if_pos control]
    rfl
  by_cases clear : busAddress address = clearAddress
  · have goes := Variant.writer_clear (by rw [part]; rfl : device.variant.hasFixedWatchdog = true)
    rw [← clear] at goes
    obtain ⟨watches, bench, same⟩ := write_handled goes byte
    rw [same, if_neg key, if_neg control, if_pos clear]
    rfl
  rw [if_neg key, if_neg control, if_neg clear]
  rcases goes : device.variant.addressMap.writer? (busAddress address) with _ | ⟨handler, offset⟩
  · obtain ⟨watches, bench, same⟩ := write_unhandled goes byte
    rw [same]
    rfl
  · obtain ⟨watches, bench, same⟩ := write_handled goes byte
    rw [same]
    have notKey : handler ≠ .watchdogKey := fun wired =>
      key (Variant.key_of_writer (wired ▸ goes))
    have notControl : handler ≠ .watchdogControl := fun wired =>
      control (Variant.control_of_writer (wired ▸ goes))
    have notClear : handler ≠ .watchdogClear := fun wired =>
      clear (Variant.clear_of_writer (wired ▸ goes))
    exact watchdog_writeHandler notKey notControl notClear offset (busAddress address) byte .program
      { device with watches, bench }

/-! ## All that happens to the watchdogs -/

/-- The mask option in the memory of a device enables the non-programmable watchdog. -/
def maskOption (device : Device) : Bool :=
  decide (device.memory.read maskOptionAddress % 2 = 1)

/-- The relation between devices whose watchdogs lie apart as far as the events in between say,
while the byte of the mask option is the same. -/
structure Supervised (events : List DeviceEvent) (before after : Device) : Prop where
  variant : after.variant = before.variant
  option : after.memory.read maskOptionAddress = before.memory.read maskOptionAddress
  watchdog : before.variant = .c8a →
    after.watchdog = before.watchdog.onBoard before.maskOption events

namespace Supervised

variable {events : List DeviceEvent} {before after : Device}

/-- Writes do not reach the mask option. -/
theorem of_wrote {writes : List BusWrite} (wrote : Wrote writes before after)
    (watchdog : before.variant = .c8a →
      after.watchdog = before.watchdog.onBoard before.maskOption events) :
    Supervised events before after where
  variant := wrote.variant
  option := by
    rw [wrote.memory]
    exact before.memory.read_takeAll_outside writes (by decide)
  watchdog := watchdog

/-- What leaves the watchdogs, the part and the memory alone. -/
theorem of_same (variant : after.variant = before.variant) (memory : after.memory = before.memory)
    (watchdog : after.watchdog = before.watchdog) : Supervised [] before after :=
  ⟨variant, congrArg (·.read maskOptionAddress) memory, fun _ => watchdog⟩

theorem trans {early late : List DeviceEvent} {a b c : Device} (first : Supervised early a b)
    (second : Supervised late b c) : Supervised (early ++ late) a c where
  variant := second.variant.trans first.variant
  option := second.option.trans first.option
  watchdog part := by
    have option : b.maskOption = a.maskOption := by
      unfold maskOption
      rw [first.option]
    rw [second.watchdog (first.variant.trans part), first.watchdog part, option,
      Watchdog.onBoard_append]

theorem charge (cycles : Nat) (device : Device) :
    Supervised [.charged cycles] device (Device.charge cycles device).2 := by
  refine of_wrote (Wrote.charge cycles device) fun part => ?_
  rw [charge_watchdog, part]
  rfl

theorem cleared (device : Device) : Supervised [.reset] device device.cleared where
  variant := rfl
  option := rfl
  watchdog part := by
    have fitted : device.variant.hasFixedWatchdog = true := by rw [part]; rfl
    exact if_pos fitted

theorem boardAccount : BoardAccount Supervised where
  refl _ := of_same rfl rfl rfl
  trans := trans
  cpu _ _ _ := of_same rfl rfl rfl
  remark _ _ _ := of_same rfl rfl rfl
  read address device := of_wrote (Wrote.accessFlow.read address device) fun part => by
    rw [Watchdog.onBoard_singleton]
    exact watchdog_read part address
  write address byte device := of_wrote (Wrote.write address byte device) fun part => by
    rw [Watchdog.onBoard_singleton]
    exact watchdog_write part address byte
  signalled _ _ := of_same rfl rfl rfl
  charge := charge
  idle _ := ⟨rfl, rfl, fun _ => rfl⟩
  cleared := cleared
  stop _ _ := of_same rfl rfl rfl
  grant _ _ := of_same rfl rfl rfl
  power _ := ⟨rfl, rfl, fun _ => rfl⟩
  interruptLine asserted device := by
    obtain ⟨pending, bench, same⟩ := device.setInterruptLine_apply asserted
    rw [same]
    exact of_same rfl rfl rfl
  captureLine _ _ := of_same rfl rfl rfl

end Supervised

/-! ## Debugger reads -/

/-- What a debugger read leaves alone on any device, whether its timer request is mirrored or
not. -/
def held (device : Device) : Variant × Memory × Watchdog :=
  (device.variant, device.memory, device.watchdog)

theorem held_glance (address : UInt16) : Moves (Same held) (Device.read address .debugger) := by
  refine Moves.read (Same.flow held) (fun _ handler offset _ => ?_) fun program => nomatch program
  unfold readHandler
  cases handler with
  | portData => exact Moves.readPort (Same.flow held) (fun _ _ => rfl) fun _ _ => rfl
  | _ => exact fun _ => rfl

theorem held_glance_word (address : UInt16) :
    Moves (Same held) (Device.readWord address .debugger) := by
  have flow := Same.flow held
  unfold Device.readWord
  exact flow.bind (held_glance address) fun _ =>
    flow.bind (held_glance (address + 1)) fun _ => flow.pure _

theorem held_symbolLines : Moves (Same held) symbolLines := by
  have flow := Same.flow held
  exact flow.of_respects fun start => respects_symbolLines (fun related => by rw [related.1])
    fun address => flow.respects (held_glance address) start

end Device

namespace Operation

/-- The operation is a debugger read, or a report made of such. -/
def isGlance (operation : Operation) : Bool :=
  (Command.operate operation).isGlance

/-- What a program, its board and a debugger that only reads do with a device. -/
def ofGuest (operation : Operation) : Bool :=
  operation.ofBoard || operation.isGlance

/-- The events of an operation of a guest. Debugger reads are none. -/
def guestEvents (operation : Operation) (device : Device) : List DeviceEvent :=
  if operation.isGlance then [] else operation.events device

end Operation

namespace Device.Supervised

open Device

theorem glance {operation : Operation} (glance : operation.isGlance = true) (device : Device) :
    Supervised [] device (operation.run device).2 := by
  have still {after : Device} (same : after.held = device.held) : Supervised [] device after := by
    obtain ⟨variant, rest⟩ := Prod.mk.inj same
    obtain ⟨memory, watchdog⟩ := Prod.mk.inj rest
    exact of_same variant memory watchdog
  unfold Operation.isGlance Command.isGlance at glance
  split at glance
  · rename_i same
    cases same
    exact still (held_glance _ device)
  · rename_i same
    cases same
    exact still (held_glance_word _ device)
  · rename_i same
    cases same
    exact still (held_symbolLines device)
  · cases glance

theorem operation {operation : Operation} (guest : operation.ofGuest = true) (device : Device) :
    Supervised (operation.guestEvents device) device (operation.run device).2 := by
  unfold Operation.guestEvents
  by_cases glances : operation.isGlance = true
  · rw [if_pos glances]
    exact glance glances device
  · rw [if_neg glances]
    have board : operation.ofBoard = true := by
      unfold Operation.ofGuest at guest
      rwa [Bool.eq_false_iff.mpr glances, Bool.or_false] at guest
    exact boardAccount.operation board device

theorem run {operations : List Operation}
    (guest : ∀ operation ∈ operations, operation.ofGuest = true) (device : Device) :
    Supervised (along Operation.guestEvents operations device) device
      (runAll operations device) :=
  boardAccount.account.along (fun made member => operation (guest made member)) device

end Device.Supervised

/-! ## What events cannot do -/

/-- An access is to the watchdogs a program read of the control register or a write to one of
their registers. -/
theorem BusAccess.of_mem_onWatchdogs {access : BusAccess} {made : WatchdogEvent}
    (member : made ∈ access.onWatchdogs) :
    (access.made = .read ∧ access.address = controlAddress ∧ made = .controlRead .program) ∨
      made = .keyWritten access.byte ∨ made = .controlWritten access.byte ∨
      made = .clearWritten access.byte := by
  unfold onWatchdogs at member
  split at member
  · rename_i reads
    split at member
    · rename_i there
      exact .inl ⟨reads, there, List.mem_singleton.mp member⟩
    · cases member
  · split at member
    · exact .inr (.inl (List.mem_singleton.mp member))
    · split at member
      · exact .inr (.inr (.inl (List.mem_singleton.mp member)))
      · split at member
        · exact .inr (.inr (.inr (List.mem_singleton.mp member)))
        · cases member

namespace DeviceEvent

variable {event : DeviceEvent} {made : WatchdogEvent} {option : Bool}

/-- An event in which the device does not begin anew neither powers, resets nor switches the
watchdogs. -/
theorem quiet_of_restarts (goes : event.restarts = false) (member : made ∈ event.onWatchdogs option) :
    made ≠ .power ∧ made ≠ .reset ∧ ∀ enabled, made ≠ .switched enabled := by
  cases event with
  | power => cases goes
  | reset => cases goes
  | access access =>
    rcases BusAccess.of_mem_onWatchdogs member with ⟨-, -, rfl⟩ | rfl | rfl | rfl
    all_goals exact ⟨WatchdogEvent.noConfusion, WatchdogEvent.noConfusion,
      fun _ => WatchdogEvent.noConfusion⟩
  | charged cycles =>
    obtain rfl := List.mem_singleton.mp member
    exact ⟨WatchdogEvent.noConfusion, WatchdogEvent.noConfusion,
      fun _ => WatchdogEvent.noConfusion⟩
  | idled cycles => cases member

/-- An event other than power and a program read of the control register is no such to the
watchdogs. -/
theorem quiet_of_readsControl (power : event ≠ .power) (goes : event.readsControl = false)
    (member : made ∈ event.onWatchdogs option) :
    made ≠ .power ∧ made ≠ .controlRead .program := by
  cases event with
  | power => exact absurd rfl power
  | reset =>
    rcases List.mem_cons.mp member with rfl | member
    · exact ⟨WatchdogEvent.noConfusion, WatchdogEvent.noConfusion⟩
    · obtain rfl := List.mem_singleton.mp member
      exact ⟨WatchdogEvent.noConfusion, WatchdogEvent.noConfusion⟩
  | access access =>
    rcases BusAccess.of_mem_onWatchdogs member with ⟨reads, there, -⟩ | rfl | rfl | rfl
    · exact absurd ⟨reads, there⟩ (of_decide_eq_false goes)
    all_goals exact ⟨WatchdogEvent.noConfusion, WatchdogEvent.noConfusion⟩
  | charged cycles =>
    obtain rfl := List.mem_singleton.mp member
    exact ⟨WatchdogEvent.noConfusion, WatchdogEvent.noConfusion⟩
  | idled cycles => cases member

/-- Only a charge is one to the watchdogs. -/
theorem eq_charged {cycles : Nat} (member : .charged cycles ∈ event.onWatchdogs option) :
    event = .charged cycles := by
  cases event with
  | power => exact nomatch List.mem_singleton.mp member
  | reset =>
    rcases List.mem_cons.mp member with same | member
    · cases same
    · exact nomatch List.mem_singleton.mp member
  | access access =>
    rcases BusAccess.of_mem_onWatchdogs member with ⟨-, -, same⟩ | same | same | same
    all_goals cases same
  | charged other =>
    cases List.mem_singleton.mp member
    rfl
  | idled cycles => cases member

end DeviceEvent

namespace Watchdog

variable {watchdog : Watchdog} {option : Bool} {events : List DeviceEvent}

/-- What the watchdogs keep in each of their events, they keep on board. -/
theorem onBoard_kept {P : Watchdog → Prop}
    (each : ∀ event ∈ events, ∀ made ∈ event.onWatchdogs option,
      ∀ watchdog, P watchdog → P (turn ⟨true, true⟩ watchdog made))
    (holds : P watchdog) : P (watchdog.onBoard option events) := by
  refine replay_kept (fun made member => ?_) holds
  obtain ⟨event, among, member⟩ := List.mem_flatMap.mp member
  exact each event among made member

theorem armed_onBoard (goes : ∀ event ∈ events, event.restarts = false)
    (up : watchdog.control &&& armed ≠ 0) :
    (watchdog.onBoard option events).control &&& armed ≠ 0 := by
  refine onBoard_kept (P := fun watchdog => watchdog.control &&& armed ≠ 0) ?_ up
  intro event among made member watchdog up
  obtain ⟨power, reset, -⟩ := DeviceEvent.quiet_of_restarts (goes event among) member
  exact armed_turn power reset up

theorem fixedEnabled_onBoard (goes : ∀ event ∈ events, event.restarts = false) :
    (watchdog.onBoard option events).fixedEnabled = watchdog.fixedEnabled := by
  refine onBoard_kept (P := fun after => after.fixedEnabled = watchdog.fixedEnabled) ?_ rfl
  intro event among made member after same
  obtain ⟨power, -, switched⟩ := DeviceEvent.quiet_of_restarts (goes event among) member
  exact (fixedEnabled_turn power switched).trans same

/-- After a reset the mask option is in force. -/
theorem fixedEnabled_of_reset (goes : ∀ event ∈ events, event.restarts = false) :
    (watchdog.onBoard option (.reset :: events)).fixedEnabled = option := by
  rw [onBoard_cons, fixedEnabled_onBoard goes]
  rfl

theorem timeoutFlag_onBoard
    (goes : ∀ event ∈ events, event ≠ .power ∧ event.readsControl = false)
    (up : watchdog.control &&& timeoutFlag ≠ 0) :
    (watchdog.onBoard option events).control &&& timeoutFlag ≠ 0 := by
  refine onBoard_kept (P := fun watchdog => watchdog.control &&& timeoutFlag ≠ 0) ?_ up
  intro event among made member watchdog up
  obtain ⟨power, unread⟩ := goes event among
  obtain ⟨power, read⟩ := DeviceEvent.quiet_of_readsControl power unread member
  exact (timeoutFlag_turn_iff power read).mpr (.inr up)

/-- An event of the device in which the timeout flag rises is a charge that lets the programmable
watchdog run out. -/
theorem charged_of_rise_onBoard {event : DeviceEvent} (down : watchdog.control &&& timeoutFlag = 0)
    (up : (watchdog.onBoard option [event]).control &&& timeoutFlag ≠ 0) :
    ∃ cycles, event = .charged cycles ∧
      watchdog.programmableRunsOut ⟨true, true⟩ cycles = true := by
  by_cases charged : ∃ cycles, event = .charged cycles
  · obtain ⟨cycles, rfl⟩ := charged
    have rises : (watchdog.turn ⟨true, true⟩ (.charged cycles)).control &&& timeoutFlag ≠ 0 := up
    obtain ⟨_, same, out⟩ := charged_of_rise down rises
    cases same
    exact ⟨cycles, rfl, out⟩
  · refine absurd ?_ up
    refine onBoard_kept (P := fun watchdog => watchdog.control &&& timeoutFlag = 0) ?_ down
    intro other among made member watchdog down
    refine Decidable.byContradiction fun rises => ?_
    obtain ⟨cycles, rfl, -⟩ := charged_of_rise down rises
    rw [List.mem_singleton.mp among] at member
    exact charged ⟨cycles, DeviceEvent.eq_charged member⟩

/-- Where the timeout flag rises, the programmable watchdog has run out. -/
theorem exists_runsOut_onBoard (down : watchdog.control &&& timeoutFlag = 0)
    (up : (watchdog.onBoard option events).control &&& timeoutFlag ≠ 0) :
    ∃ early cycles late, events = early ++ .charged cycles :: late ∧
      (watchdog.onBoard option early).programmableRunsOut ⟨true, true⟩ cycles = true := by
  induction events generalizing watchdog with
  | nil => exact absurd down up
  | cons event events ih =>
    by_cases first : (watchdog.onBoard option [event]).control &&& timeoutFlag = 0
    · rw [onBoard_cons] at up
      obtain ⟨early, cycles, late, rfl, out⟩ := ih first up
      rw [← onBoard_cons] at out
      exact ⟨event :: early, cycles, late, rfl, out⟩
    · obtain ⟨cycles, rfl, out⟩ := charged_of_rise_onBoard down first
      exact ⟨[], cycles, events, rfl, out⟩

end Watchdog

/-! ## A guest under supervision -/

/-- Whatever a program and its board do with a part that has both watchdogs, and a debugger that only
reads, the byte of the mask option stays as it is, and after any of the operations the watchdogs are
what the events so far make of them. From one moment of that history to a later one, be it in the
middle of a run or of a step:

* without a reset in between, the programmable watchdog stays armed and the other one switched as it
  was;
* from a reset on, until the next one, the non-programmable watchdog is switched as the mask option
  says;
* the timeout flag stays up unless power is applied or the program reads the control register;
* the timeout flag rises only in a charge that lets the programmable watchdog run out. -/
theorem Device.guest_keeps_watchdogs (device : Device) (part : device.variant = .c8a)
    {operations : List Operation} (guest : ∀ operation ∈ operations, operation.ofGuest = true) :
    let events := along Operation.guestEvents operations device
    let moment (past : List DeviceEvent) := device.watchdog.onBoard device.maskOption past
    (∀ earlier later, operations = earlier ++ later →
      let past := along Operation.guestEvents earlier device
      let present := runAll earlier device
      past <+: events ∧ present.watchdog = moment past ∧
        present.memory.read maskOptionAddress = device.memory.read maskOptionAddress) ∧
    (∀ past stretch, past ++ stretch <+: events →
      let before := moment past
      let after := moment (past ++ stretch)
      ((∀ event ∈ stretch, event.restarts = false) →
        (before.control &&& Watchdog.armed ≠ 0 → after.control &&& Watchdog.armed ≠ 0) ∧
          after.fixedEnabled = before.fixedEnabled) ∧
      (∀ late, stretch = .reset :: late → (∀ event ∈ late, event.restarts = false) →
        after.fixedEnabled = device.maskOption) ∧
      ((∀ event ∈ stretch, event ≠ .power ∧ event.readsControl = false) →
        before.control &&& Watchdog.timeoutFlag ≠ 0 →
          after.control &&& Watchdog.timeoutFlag ≠ 0) ∧
      (before.control &&& Watchdog.timeoutFlag = 0 →
        after.control &&& Watchdog.timeoutFlag ≠ 0 →
          ∃ early cycles late, stretch = early ++ .charged cycles :: late ∧
            (moment (past ++ early)).programmableRunsOut device.variant.watchdogs cycles =
              true)) := by
  intro events moment
  constructor
  · rintro earlier later rfl past present
    have supervised : Supervised past device present :=
      Supervised.run (fun operation member => guest operation (List.mem_append_left later member))
        device
    refine ⟨?_, supervised.watchdog part, supervised.option⟩
    exact ⟨_, (along_append Operation.guestEvents earlier later device).symm⟩
  · intro past stretch _ before after
    have split (stretch : List DeviceEvent) :
        moment (past ++ stretch) = before.onBoard device.maskOption stretch :=
      device.watchdog.onBoard_append device.maskOption past stretch
    have onward : after = before.onBoard device.maskOption stretch := split stretch
    rw [onward, part]
    refine ⟨fun goes => ⟨Watchdog.armed_onBoard goes, Watchdog.fixedEnabled_onBoard goes⟩, ?_,
      Watchdog.timeoutFlag_onBoard, fun down up => ?_⟩
    · rintro late rfl goes
      exact Watchdog.fixedEnabled_of_reset goes
    · obtain ⟨early, cycles, late, same, out⟩ := Watchdog.exists_runsOut_onBoard down up
      exact ⟨early, cycles, late, same, split early ▸ out⟩

/-- A part in a field of NOPs, which are odd bytes for the mask option too, meets a timeout in its
first step. The timeout flag outlasts a write of zero to the control register, a look at it and
another step, and the non-programmable watchdog is on. -/
theorem Device.guest_keeps_watchdogs_of_expired :
    let device := { Device.new .c8a 4000000 with
      cpu := { Cpu.initial with pc := 0x0100 }
      memory := ⟨.replicate addressSpace 0x9D⟩
      watchdog := { Watchdog.initial with control := Watchdog.armed, programmableCount := 0x7FFE } }
    let earlier : List Operation := [.step]
    let later : List Operation := [.write 0x001E 0x00 .program, .read 0x001E .debugger, .step]
    let present := runAll (earlier ++ later) device
    (∀ operation ∈ earlier ++ later, operation.ofGuest = true) ∧
      (runAll earlier device).watchdog.control &&& Watchdog.timeoutFlag ≠ 0 ∧
      present.watchdog.control &&& Watchdog.timeoutFlag ≠ 0 ∧
      present.memory.read maskOptionAddress = 0x9D ∧ present.watchdog.fixedEnabled = true := by
  intro device earlier later present
  have guest : ∀ operation ∈ earlier ++ later, operation.ofGuest = true := by decide
  have byte : device.memory.read maskOptionAddress = 0x9D :=
    (dif_pos (by decide)).trans (Vector.getElem_replicate _)
  have enabled : device.maskOption = true := by
    unfold maskOption
    rw [byte]
    rfl
  have timedOut : along Operation.guestEvents earlier device =
      [.access ⟨0x0100, .read, 0x9D⟩, .charged 2] ++
        [.reset, .access ⟨0x1FFE, .read, 0x9D⟩, .access ⟨0x1FFF, .read, 0x9D⟩] := by
    decide +kernel
  have lived : along Operation.guestEvents later (runAll earlier device) =
      [.access ⟨0x001E, .write, 0x00⟩, .access ⟨0x1D9D, .read, 0x9D⟩, .charged 2] := by
    decide +kernel
  obtain ⟨linked, onward⟩ := guest_keeps_watchdogs device rfl guest
  obtain ⟨-, first, -⟩ := linked earlier later rfl
  obtain ⟨-, final, kept⟩ := linked (earlier ++ later) [] (List.append_nil _).symm
  have joined := along_append Operation.guestEvents earlier later device
  rw [timedOut] at first
  rw [joined, timedOut, lived] at final
  have expired : (runAll earlier device).watchdog.control &&& Watchdog.timeoutFlag ≠ 0 := by
    rw [first, enabled]
    decide
  obtain ⟨-, -, stays, -⟩ := onward _ _ ⟨[], by rw [List.append_nil, joined, timedOut, lived]⟩
  obtain ⟨-, switched, -, -⟩ := onward [.access ⟨0x0100, .read, 0x9D⟩, .charged 2] _
    ⟨[], by rw [List.append_nil, joined, timedOut, lived, List.append_assoc]⟩
  refine ⟨guest, expired, ?_, kept.trans byte, ?_⟩
  · rw [final]
    exact stays (by decide) (first ▸ expired)
  · rw [final, List.append_assoc]
    exact (switched _ rfl (by decide)).trans enabled

end M68HC05
