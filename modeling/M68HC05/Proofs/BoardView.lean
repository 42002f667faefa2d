import M68HC05.Proofs.PortExchange
import Mathlib.Data.List.Induction

/-!
What the board knows of a port. The board listens to what a port drives, and its view of the port is
what it was last told (`Bench.told`). A program that changes the outputs of a port tells the board,
so the view stays current; a reset makes all pins inputs and tells nothing. So the view is out of
date exactly from a reset that strikes while the port drives pins until the program makes pins of
the port outputs again (`PortView.of_settled`), and in this time the board still takes for driven
what has been released (`PortView.Overlooked`).
-/

namespace M68HC05

open M68HC05.Action

/-! ## What the board has been told -/

/-- The outputs that a signal tells of, if it does. -/
def Signal.outputs? : Signal → Option (UInt8 × UInt8)
  | drive _ value direction => some (value &&& direction, direction)
  | _ => none

/-- The outputs of a port as the board was last told of them. A port of which it has not been told
has none. -/
def Bench.told (bench : Bench) (index : PortIndex) : UInt8 × UInt8 :=
  ((bench.exchange index).findSome? Signal.outputs?).getD (0, 0)

theorem Port.driven_outputs (latch input direction : UInt8) :
    ((latch &&& direction) ||| (input &&& ~~~direction)) &&& direction = latch &&& direction := by
  rw [or_and_right8, UInt8.and_assoc, UInt8.and_self, UInt8.and_assoc, UInt8.not_and_self,
    UInt8.and_zero, UInt8.or_zero]

/-- A port without output pins. -/
theorem Port.outputs_of_inputs {port : Port} (inputs : port.direction = 0) :
    port.outputs = (0, 0) := by
  unfold Port.outputs
  rw [inputs, UInt8.and_zero]

namespace Bench.Sent

variable {signals : List Signal} {before after : Bench} {index : PortIndex}

theorem told_eq (sent : Bench.Sent signals before after) (index : PortIndex) :
    after.told index = ((((signals.filter (·.port? = some index)).filter before.hears).reverse
      |>.findSome? Signal.outputs?).getD (before.told index)) := by
  unfold Bench.told
  rw [sent.exchange, List.findSome?_append, Option.getD_or]

/-- Nothing is told of a port by signals that are not about it. -/
theorem told_of_mute (sent : Bench.Sent signals before after)
    (mute : ∀ signal ∈ signals, signal.port? ≠ some index) :
    after.told index = before.told index := by
  have none : signals.filter (·.port? = some index) = [] :=
    List.filter_eq_nil_iff.mpr fun signal member => by
      rw [decide_eq_true_eq]
      exact mute signal member
  rw [sent.told_eq, none]
  rfl

/-- A board that listens to a port is told of its outputs if they have changed. -/
theorem told_of_exchanged {sensed : Bool} {old new : Port}
    (sent : Bench.Sent signals before after) (wired : before.outputs.get index = true)
    (exchanged : signals.filter (·.port? = some index) = Port.exchanged index sensed old new) :
    after.told index = if new.outputs ≠ old.outputs then new.outputs else before.told index := by
  have sampled : ((if sensed then [Signal.sample index (~~~old.direction &&& old.bonded)]
      else []).filter before.hears).reverse.findSome? Signal.outputs? = none := by
    refine List.findSome?_eq_none_iff.mpr fun signal member => ?_
    have among := (List.mem_filter.mp (List.mem_reverse.mp member)).1
    split at among
    · rw [List.mem_singleton.mp among]
      rfl
    · cases among
  rw [sent.told_eq, exchanged]
  unfold Port.exchanged
  rw [List.filter_append, List.reverse_append, List.findSome?_append, sampled, Option.or_none]
  split
  · have heard : before.hears (.drive index ((new.latch &&& new.direction) |||
        (new.input &&& ~~~new.direction)) new.direction) = true := wired
    rw [List.filter_cons_of_pos heard]
    change (_ &&& new.direction, new.direction) = new.outputs
    rw [Port.driven_outputs]
    rfl
  · rfl

end Bench.Sent

/-! ## What the program sets -/

/-- The operation on a port that an access is, if it is a write to one of its registers. -/
def BusAccess.portWrite? (access : BusAccess) : Option (PortIndex × PortOperation) :=
  if access.made = .write then
    ((Ports.dataAt? access.address).map (·, .writeLatch access.byte)).or
      ((Ports.directionAt? access.address).map (·, .writeDirection access.byte))
  else none

/-- Writing to the direction register of a port is an operation on its direction. -/
theorem BusAccess.portWrite?_direction {address : UInt16} {index : PortIndex}
    (direction : Ports.directionAt? (busAddress address) = some index) (byte : UInt8) :
    (BusAccess.write address byte).portWrite? = some (index, .writeDirection byte) := by
  have above : ¬ (busAddress address).toNat < 4 := by
    intro below
    unfold Ports.directionAt? at direction
    rw [if_neg fun inside => Nat.not_le_of_lt below inside.1] at direction
    cases direction
  have data : Ports.dataAt? (busAddress address) = none := if_neg above
  change (Option.map _ (Ports.dataAt? (busAddress address))).or
    (Option.map _ (Ports.directionAt? (busAddress address))) = _
  rw [data, direction]
  rfl

/-- A port after an operation, but for its sample. -/
def PortOperation.sets (operation : PortOperation) (port : Port) : Port :=
  match operation with
  | writeLatch byte => { port with latch := byte &&& port.bonded }
  | writeDirection byte => { port with direction := byte &&& port.bonded }
  | sense _ => port

theorem PortOperation.run_unsampled (operation : PortOperation) (used index : PortIndex)
    (device : Device) : ((operation.run used device).ports.get index).unsampled =
      if used = index then operation.sets (device.ports.get index).unsampled
      else (device.ports.get index).unsampled := by
  have same : used.val = index.val ↔ used = index := Fin.ext_iff.symm
  cases operation with
  | writeLatch byte =>
    dsimp only [run]
    rw [onPort_get, if_congr same rfl rfl]
    split
    · rename_i here
      rw [here]
      rfl
    · rfl
  | writeDirection byte =>
    dsimp only [run]
    rw [onPort_get, if_congr same rfl rfl]
    split
    · rename_i here
      rw [here]
      rfl
    · rfl
  | sense access =>
    rw [sense_unsampled]
    split
    · rfl
    · rfl

/-! ## The view of a port -/

/-- A port as the program has set it, and what the board was last told of it. -/
structure PortView where
  port : Port
  told : UInt8 × UInt8

namespace PortView

variable {view : PortView} {index : PortIndex} {event : DeviceEvent}
  {events earlier later : List DeviceEvent}

/-- The board knows the outputs of the port. -/
def Current (view : PortView) : Prop :=
  view.told = view.port.outputs

/-- The board takes pins for outputs, and all pins are inputs. -/
def Overlooked (view : PortView) : Prop :=
  view.port.direction = 0 ∧ view.told.2 ≠ 0

/-- The program sets a port, and the board is told if the outputs change. -/
def set (view : PortView) (port : Port) : PortView :=
  ⟨port, if port.outputs ≠ view.port.outputs then port.outputs else view.told⟩

/-- A port and what the board knows of it after an event. -/
def pass (index : PortIndex) (view : PortView) : DeviceEvent → PortView
  | .power => { view with port := { view.port with latch := 0xFF } }
  | .reset => { view with port := { view.port with direction := 0 } }
  | .access access =>
    match access.portWrite? with
    | some (used, operation) =>
      if used = index then view.set (operation.sets view.port) else view
    | none => view
  | .charged _ | .idled _ => view

/-- A port and what the board knows of it after some events. -/
def replay (index : PortIndex) (events : List DeviceEvent) (view : PortView) : PortView :=
  events.foldl (pass index) view

theorem replay_append (early late : List DeviceEvent) (view : PortView) :
    view.replay index (early ++ late) = (view.replay index early).replay index late :=
  List.foldl_append

section Access

variable {access : BusAccess} {operation : PortOperation}

theorem pass_of_write (names : access.portWrite? = some (index, operation)) :
    view.pass index (.access access) = view.set (operation.sets view.port) := by
  unfold pass
  dsimp only
  rw [names]
  exact if_pos rfl

theorem pass_elsewhere (elsewhere : ∀ operation, access.portWrite? ≠ some (index, operation)) :
    view.pass index (.access access) = view := by
  unfold pass
  dsimp only
  split
  · rename_i used operation names
    refine if_neg fun here => elsewhere operation ?_
    rw [names, here]
  · rfl

/-- An access sets the port at most, as an operation on it does. -/
theorem pass_access (index : PortIndex) (view : PortView) (access : BusAccess) :
    view.pass index (.access access) = view ∨
      ∃ operation, access.portWrite? = some (index, operation) ∧
        view.pass index (.access access) = view.set (operation.sets view.port) := by
  by_cases written : ∃ operation, access.portWrite? = some (index, operation)
  · obtain ⟨operation, names⟩ := written
    exact .inr ⟨operation, names, pass_of_write names⟩
  · exact .inl (pass_elsewhere (not_exists.mp written))

/-- Reading sets nothing. -/
theorem replay_reads {accesses : List BusAccess}
    (reads : ∀ access ∈ accesses, access.made ≠ .write) (view : PortView) :
    view.replay index (accessEvents accesses) = view := by
  induction accesses with
  | nil => rfl
  | cons access accesses ih =>
    obtain ⟨first, later⟩ := List.forall_mem_cons.mp reads
    have none : access.portWrite? = none := if_neg first
    have same : view.pass index (.access access) = view :=
      pass_elsewhere fun operation names => nomatch none.symm.trans names
    change (view.pass index (.access access)).replay index (accessEvents accesses) = view
    rw [same, ih later]

end Access

/-- The program makes bonded pins of a port outputs. -/
def Raises (index : PortIndex) (bonded : UInt8) : DeviceEvent → Prop
  | .access access => ∃ byte, access.portWrite? = some (index, .writeDirection byte) ∧
      byte &&& bonded ≠ 0
  | _ => False

theorem Overlooked.not_current (overlooked : view.Overlooked) : ¬ view.Current := by
  intro current
  refine overlooked.2 ?_
  rw [current]
  exact overlooked.1

theorem set_self (view : PortView) : view.set view.port = view := by
  unfold set
  rw [if_neg (not_not_intro rfl)]

theorem set_current (current : view.Current) (port : Port) : (view.set port).Current := by
  unfold Current set
  dsimp only
  split
  · rfl
  · rename_i same
    rw [current]
    exact (Decidable.not_not.mp same).symm

/-- Outputs that the board took for inputs are told. -/
theorem set_of_raised (inputs : view.port.direction = 0) {port : Port}
    (raised : port.direction ≠ 0) : (view.set port).Current := by
  unfold Current set
  dsimp only
  rw [if_pos]
  intro same
  exact raised ((congrArg Prod.snd same).trans inputs)

/-- Of a port that stays all inputs, nothing is told. -/
theorem set_overlooked (overlooked : view.Overlooked) {port : Port} (inputs : port.direction = 0) :
    (view.set port).Overlooked := by
  have same : port.outputs = view.port.outputs := by
    rw [Port.outputs_of_inputs inputs, Port.outputs_of_inputs overlooked.1]
  refine ⟨inputs, ?_⟩
  unfold set
  rw [if_neg (not_not_intro same)]
  exact overlooked.2

theorem bonded_pass (event : DeviceEvent) (view : PortView) :
    (view.pass index event).port.bonded = view.port.bonded := by
  cases event with
  | access access =>
    rcases pass_access index view access with same | ⟨operation, -, sets⟩
    · rw [same]
    · rw [sets]
      cases operation with
      | _ => rfl
  | _ => rfl

theorem bonded_replay (index : PortIndex) (events : List DeviceEvent) (view : PortView) :
    (view.replay index events).port.bonded = view.port.bonded := by
  induction events generalizing view with
  | nil => rfl
  | cons event events ih => exact (ih (view.pass index event)).trans (view.bonded_pass event)

/-- Events keep a view current, but for power and for a reset that releases pins. -/
theorem current_pass (current : view.Current) (unpowered : event ≠ .power)
    (kept : event = .reset → view.port.direction = 0) : (view.pass index event).Current := by
  cases event with
  | power => exact absurd rfl unpowered
  | reset =>
    have released : { view.port with direction := 0 } = view.port := by
      rw [← kept rfl]
    unfold pass
    dsimp only
    rw [released]
    exact current
  | access access =>
    rcases pass_access index view access with same | ⟨operation, -, sets⟩
    · rw [same]
      exact current
    · rw [sets]
      exact set_current current _
  | charged cycles => exact current
  | idled cycles => exact current

/-- A reset of a port of which the board knows outputs goes unnoticed. -/
theorem overlooked_reset (index : PortIndex) (driven : view.told.2 ≠ 0) :
    (view.pass index .reset).Overlooked :=
  ⟨rfl, driven⟩

/-- What is overlooked stays so until pins are made outputs. -/
theorem overlooked_pass (overlooked : view.Overlooked) (unpowered : event ≠ .power)
    (stays : ¬ Raises index view.port.bonded event) : (view.pass index event).Overlooked := by
  cases event with
  | power => exact absurd rfl unpowered
  | reset => exact overlooked_reset index overlooked.2
  | access access =>
    rcases pass_access index view access with same | ⟨operation, names, sets⟩
    · rw [same]
      exact overlooked
    · rw [sets]
      refine set_overlooked overlooked ?_
      cases operation with
      | writeLatch byte => exact overlooked.1
      | writeDirection byte =>
        exact Decidable.not_not.mp fun raised => stays ⟨byte, names, raised⟩
      | sense access => exact overlooked.1
  | charged cycles => exact overlooked
  | idled cycles => exact overlooked

/-- Then the board is told. -/
theorem current_of_raises (overlooked : view.Overlooked)
    (raises : Raises index view.port.bonded event) : (view.pass index event).Current := by
  cases event with
  | access access =>
    obtain ⟨byte, names, raised⟩ := raises
    rw [pass_of_write names]
    exact set_of_raised overlooked.1 raised
  | _ => exact raises.elim

/-! ## Views that are out of date -/

/-- A reset has struck while the port drove pins, and the program has made none of them outputs
since. -/
def Slipped (index : PortIndex) (events : List DeviceEvent) (view : PortView) : Prop :=
  ∃ earlier later, events = earlier ++ .reset :: later ∧
    (view.replay index earlier).port.direction ≠ 0 ∧
    ∀ event ∈ later, ¬ Raises index view.port.bonded event

theorem not_slipped_nil : ¬ view.Slipped index [] := by
  rintro ⟨earlier, later, split, -⟩
  exact List.append_ne_nil_of_right_ne_nil earlier (List.cons_ne_nil _ later) split.symm

theorem slipped_concat :
    view.Slipped index (events ++ [event]) ↔
      event = .reset ∧ (view.replay index events).port.direction ≠ 0 ∨
        view.Slipped index events ∧ ¬ Raises index view.port.bonded event := by
  constructor
  · rintro ⟨earlier, later, split, driven, quiet⟩
    rcases concat_eq_split split with ⟨rfl, rfl, -⟩ | ⟨between, rfl, rfl⟩
    · exact .inl ⟨rfl, driven⟩
    · obtain ⟨before, now⟩ := List.forall_mem_append.mp quiet
      exact .inr ⟨⟨earlier, between, rfl, driven, before⟩, now event List.mem_cons_self⟩
  · rintro (⟨rfl, driven⟩ | ⟨⟨earlier, later, rfl, driven, quiet⟩, stays⟩)
    · exact ⟨events, [], rfl, driven, fun event member => nomatch member⟩
    · refine ⟨earlier, later ++ [event], by simp, driven, ?_⟩
      exact List.forall_mem_append.mpr ⟨quiet, List.forall_mem_singleton.mpr stays⟩

/-- Power is applied with a reset. -/
inductive Settled : List DeviceEvent → Prop
  | nil : Settled []
  | start {past : List DeviceEvent} (settled : Settled past) : Settled (past ++ [.power, .reset])
  | concat {past : List DeviceEvent} {event : DeviceEvent} (settled : Settled past)
    (unpowered : event ≠ .power) : Settled (past ++ [event])

theorem Settled.of_unpowered (unpowered : .power ∉ events) : Settled events := by
  induction events using List.reverseRecOn with
  | nil => exact .nil
  | append_singleton events event ih =>
    refine .concat (ih fun member => unpowered (List.mem_append_left _ member)) ?_
    rintro rfl
    exact unpowered (List.mem_append_right _ List.mem_cons_self)

theorem Settled.append {early late : List DeviceEvent} (first : Settled early)
    (second : Settled late) : Settled (early ++ late) := by
  induction second with
  | nil =>
    rw [List.append_nil]
    exact first
  | start settled ih =>
    rw [← List.append_assoc]
    exact ih.start
  | concat settled unpowered ih =>
    rw [← List.append_assoc]
    exact ih.concat unpowered

/-- Power and the reset that goes with it release what was driven before. -/
theorem slipped_start :
    view.Slipped index (events ++ [.power, .reset]) ↔
      (view.replay index events).port.direction ≠ 0 ∨ view.Slipped index events := by
  have split : events ++ [.power, .reset] = events ++ [.power] ++ [.reset] := by simp
  have direction : (view.replay index (events ++ [.power])).port.direction =
      (view.replay index events).port.direction := by
    rw [replay_append]
    rfl
  rw [split, slipped_concat, slipped_concat, direction]
  exact ⟨Or.imp And.right fun before => (before.1.resolve_left nofun).1,
    Or.imp (⟨rfl, ·⟩) fun before => ⟨.inr ⟨before, id⟩, id⟩⟩

/-- A view that was current is so unless a reset has slipped, and then pins are overlooked. -/
theorem of_settled (index : PortIndex) (current : view.Current) (settled : Settled events) :
    (view.Slipped index events → (view.replay index events).Overlooked) ∧
      (¬ view.Slipped index events → (view.replay index events).Current) := by
  induction settled with
  | nil => exact ⟨fun slipped => absurd slipped not_slipped_nil, fun _ => current⟩
  | @start past settled ih =>
    rw [slipped_start, replay_append]
    by_cases slipped : view.Slipped index past
    · exact ⟨fun _ => overlooked_reset index (ih.1 slipped).2,
        fun kept => absurd (Or.inr slipped) kept⟩
    · have known : (view.replay index past).told = (view.replay index past).port.outputs :=
        ih.2 slipped
      constructor
      · intro driven
        refine overlooked_reset index ?_
        change (view.replay index past).told.2 ≠ 0
        rw [known]
        exact driven.resolve_right slipped
      · intro kept
        have inputs := Decidable.not_not.mp (not_or.mp kept).1
        exact (known.trans (Port.outputs_of_inputs inputs)).trans (Port.outputs_of_inputs rfl).symm
  | @concat past event settled unpowered ih =>
    rw [slipped_concat, replay_append, ← view.bonded_replay index past]
    change (_ → ((view.replay index past).pass index event).Overlooked) ∧
      (_ → ((view.replay index past).pass index event).Current)
    by_cases slipped : view.Slipped index past
    · have overlooked := ih.1 slipped
      refine ⟨fun still => ?_, fun ended => ?_⟩
      · refine overlooked_pass overlooked unpowered fun raises => ?_
        exact still.elim (fun reset => reset.2 overlooked.1) fun stays => stays.2 raises
      · refine current_of_raises overlooked (Classical.not_not.mp fun stays => ?_)
        exact ended (.inr ⟨slipped, stays⟩)
    · have known := ih.2 slipped
      refine ⟨fun now => ?_, fun kept => ?_⟩
      · obtain ⟨rfl, driven⟩ := now.resolve_right fun before => slipped before.1
        refine overlooked_reset index ?_
        rw [known]
        exact driven
      · refine current_pass known unpowered fun reset => Decidable.not_not.mp fun driven => ?_
        exact kept (.inl ⟨reset, driven⟩)

/-- So the view is out of date exactly if a reset has slipped. -/
theorem current_iff_of_settled (current : view.Current) (settled : Settled events) :
    (view.replay index events).Current ↔ ¬ view.Slipped index events := by
  obtain ⟨out, kept⟩ := of_settled index current settled
  exact ⟨fun known slipped => (out slipped).not_current known, kept⟩

end PortView

/-! ## Views in a run -/

/-- What the program has set of a port, and what the board knows of it. -/
def Device.portView (device : Device) (index : PortIndex) : PortView :=
  ⟨(device.ports.get index).unsampled, device.bench.told index⟩

/-- Between two devices these events have happened, as far as a board that listens to the port can
see. -/
def Viewed (index : PortIndex) (events : List DeviceEvent) (before after : Device) : Prop :=
  before.bench.outputs.get index = true →
    after.bench.outputs.get index = true ∧
      after.portView index = (before.portView index).replay index events

namespace Viewed

variable {index : PortIndex} {before after : Device}

theorem wired_of_sent {signals : List Signal} (sent : Bench.Sent signals before.bench after.bench)
    (wired : before.bench.outputs.get index = true) : after.bench.outputs.get index = true := by
  have heard : after.bench.hears (.drive index 0 0) = true := by
    rw [sent.hears]
    exact wired
  exact heard

/-- Nothing is seen when no register of a port is set and nothing is said about the port. -/
theorem of_mute {signals : List Signal}
    (same : (after.ports.get index).unsampled = (before.ports.get index).unsampled)
    (sent : Bench.Sent signals before.bench after.bench)
    (mute : ∀ signal ∈ signals, signal.port? ≠ some index) : Viewed index [] before after := by
  intro wired
  refine ⟨wired_of_sent sent wired, ?_⟩
  unfold Device.portView
  rw [same, sent.told_of_mute mute]
  rfl

/-- An access is seen in what it sets. -/
theorem of_access {access : BusAccess} (event : PortEvent) {device : Device}
    (sets : (Device.portView device index).pass index (.access access) =
      (Device.portView device index).set ((event.run device).ports.get index).unsampled) :
    Viewed index [.access access] device (event.run device) := by
  intro wired
  obtain ⟨signals, sent, exchanged⟩ := event.exchange_run index device
  refine ⟨wired_of_sent sent wired, ?_⟩
  change _ = (Device.portView device index).pass index (.access access)
  rw [sets]
  unfold Device.portView PortView.set
  rw [sent.told_of_exchanged wired exchanged]
  rfl

theorem read (address : UInt16) (device : Device) :
    Viewed index [.access (device.readAccess address)] device
      (Device.read address .program device).2 := by
  have same : (((PortEvent.read address .program).run device).ports.get index).unsampled =
      (device.portView index).port := by
    cases names : (PortEvent.read address .program).operation? with
    | none =>
      rw [(PortEvent.run_aloof names device).ports]
      rfl
    | some operated =>
      obtain ⟨port, data, rfl⟩ := Option.map_eq_some_iff.mp names
      obtain ⟨ready, first, last⟩ := PortEvent.run_operated names device
      rw [last.ports, PortOperation.sense_unsampled, first.ports]
      rfl
  refine of_access (.read address .program) ?_
  rw [same, PortView.set_self]
  rfl

theorem write (address : UInt16) (byte : UInt8) (device : Device) :
    Viewed index [.access (.write address byte)] device
      (Device.write address byte .program device).2 := by
  refine of_access (.write address byte .program) ?_
  cases names : (PortEvent.write address byte .program).operation? with
  | none =>
    have other : (BusAccess.write address byte).portWrite? = none := names
    rw [(PortEvent.run_aloof names device).ports,
      PortView.pass_elsewhere fun operation written => nomatch other.symm.trans written]
    exact (PortView.set_self _).symm
  | some operated =>
    obtain ⟨used, operation⟩ := operated
    have made : (BusAccess.write address byte).portWrite? = some (used, operation) := names
    obtain ⟨ready, first, last⟩ := PortEvent.run_operated names device
    rw [last.ports, PortOperation.run_unsampled, first.ports]
    by_cases here : used = index
    · subst here
      rw [if_pos rfl]
      exact PortView.pass_of_write made
    · have elsewhere (other : PortOperation) :
          (BusAccess.write address byte).portWrite? ≠ some (index, other) := by
        rw [made]
        exact fun same => here (congrArg Prod.fst (Option.some.inj same))
      rw [if_neg here, PortView.pass_elsewhere elsewhere]
      exact (PortView.set_self _).symm

theorem charge (cycles : Nat) (device : Device) :
    Viewed index [.charged cycles] device (Device.charge cycles device).2 := by
  have ports : (Device.charge cycles device).2.ports = device.ports := by
    unfold Device.charge
    simp only [bind_apply, get_apply, Action.ite_apply]
    split
    · rfl
    · rfl
  have mute : ∀ signal ∈ (if device.timer.reachesCompare cycles = true ∧
      device.timer.compareInhibited = false then
        [Signal.compareOutput (device.timer.control &&& Timer.outputLevel ≠ 0)]
      else []), signal.port? ≠ some index := by
    intro signal member
    split at member
    · rw [List.mem_singleton.mp member]
      exact nofun
    · cases member
  exact of_mute (by rw [ports]) (Device.charge_sends cycles device) mute

theorem cleared (device : Device) : Viewed index [.reset] device device.cleared := by
  intro wired
  have sent : Bench.Sent [] device.bench device.cleared.bench := device.cleared_unheard
  have port : device.cleared.ports.get index = (device.ports.get index).reset :=
    Vector.getElem_map _ _
  refine ⟨wired_of_sent sent wired, ?_⟩
  unfold Device.portView
  rw [sent.told_of_mute fun _ member => (nomatch member), port]
  rfl

theorem power (device : Device) : Viewed index [.power] device device.powered := by
  intro wired
  have port : device.powered.ports.get index = (device.ports.get index).powerOn :=
    Vector.getElem_map _ _
  refine ⟨wired, ?_⟩
  unfold Device.portView
  rw [port]
  rfl

theorem interruptLine (asserted : Bool) :
    Moves (Viewed index []) (Device.setInterruptLine asserted) := by
  intro device
  unfold Device.setInterruptLine
  simp only [bind_apply, get_apply, Action.ite_apply]
  split
  · exact of_mute rfl (device.bench.sent_add (.remark .lineAsserted)) fun _ member => nomatch member
  · exact fun wired => ⟨wired, rfl⟩

theorem boardAccount (index : PortIndex) : BoardAccount (Viewed index) where
  refl device wired := ⟨wired, rfl⟩
  trans first second wired := by
    obtain ⟨heard, told⟩ := first wired
    obtain ⟨still, retold⟩ := second heard
    refine ⟨still, ?_⟩
    rw [retold, told, PortView.replay_append]
  cpu device _ _ wired := ⟨wired, rfl⟩
  remark text _ device :=
    of_mute rfl (device.bench.sent_add (.remark text)) fun _ member => nomatch member
  read := read
  write := write
  signalled line device := by
    refine of_mute rfl ((device.bench.sent_add (.remark (.interruptTaken line))).trans
      (Bench.sent_add _ (.signal (.acknowledge line)))) fun signal member => ?_
    rw [List.mem_singleton.mp member]
    exact nofun
  charge := charge
  idle device wired := ⟨wired, rfl⟩
  cleared := cleared
  stop device _ wired := ⟨wired, rfl⟩
  grant device _ wired := ⟨wired, rfl⟩
  power := power
  interruptLine := interruptLine
  captureLine level device :=
    of_mute rfl (Device.setCaptureLine_unheard level device) fun _ member => nomatch member

end Viewed

/-! ## Power in a run -/

theorem power_not_mem_accessEvents (accesses : List BusAccess) :
    .power ∉ accessEvents accesses := by
  unfold accessEvents
  rw [List.mem_map]
  rintro ⟨access, -, same⟩
  cases same

namespace Device

theorem power_not_mem_resetEvents (device : Device) : .power ∉ device.resetEvents := by
  unfold resetEvents
  rw [List.mem_cons]
  exact not_or.mpr ⟨nofun, power_not_mem_accessEvents _⟩

theorem power_not_mem_turnEvents (device : Device) : .power ∉ device.turnEvents := by
  unfold turnEvents
  split
  · rw [List.mem_append, List.mem_append]
    exact not_or.mpr ⟨not_or.mpr ⟨power_not_mem_accessEvents _, power_not_mem_accessEvents _⟩,
      by simp⟩
  · simp
  · simp

/-- Power is never applied in a step. -/
theorem power_not_mem_eventsInStep (device : Device) : .power ∉ device.eventsInStep := by
  unfold eventsInStep
  rw [List.mem_append, List.mem_append]
  refine not_or.mpr ⟨not_or.mpr ⟨?_, power_not_mem_turnEvents _⟩, ?_⟩
  · unfold entryEvents
    split
    · rw [List.mem_append, List.mem_append]
      exact not_or.mpr ⟨not_or.mpr ⟨power_not_mem_accessEvents _, power_not_mem_accessEvents _⟩,
        by simp⟩
    · exact List.not_mem_nil
  · split
    · exact power_not_mem_resetEvents _
    · exact List.not_mem_nil

end Device

namespace PortView

/-- Whatever is done with a device, power is applied to it with a reset. -/
theorem Settled.events (operation : Operation) (device : Device) :
    Settled (operation.events device) := by
  have accessed (accesses : List BusAccess) : Settled (accessEvents accesses) :=
    .of_unpowered (power_not_mem_accessEvents accesses)
  have cleared : Settled device.resetEvents := .of_unpowered device.power_not_mem_resetEvents
  have stepped (boundaries : List Device) : Settled (boundaries.flatMap Device.eventsInStep) := by
    refine .of_unpowered fun member => ?_
    obtain ⟨boundary, -, member⟩ := List.mem_flatMap.mp member
    exact boundary.power_not_mem_eventsInStep member
  cases operation with
  | start => exact (Settled.start .nil).append (accessed (device.vectorAccesses resetVector))
  | reset => exact cleared
  | setInputLine line asserted =>
    unfold Operation.events
    dsimp only
    split
    · exact cleared
    · exact .nil
  | read address access => exact accessed _
  | readWord address access => exact accessed _
  | write address byte access => exact accessed _
  | _ => exact stepped _

theorem Settled.along (operations : List Operation) (device : Device) :
    Settled (along Operation.events operations device) := by
  induction operations generalizing device with
  | nil => exact .nil
  | cons operation operations ih => exact (Settled.events operation device).append (ih _)

end PortView

namespace Device

variable {device : Device} {index : PortIndex}

theorem portView_reset (wired : device.bench.outputs.get index = true) :
    (reset device).2.portView index = (device.portView index).pass index .reset := by
  obtain ⟨-, view⟩ := (Viewed.boardAccount index).reset device wired
  rw [view, resetEvents, ← List.singleton_append, PortView.replay_append]
  refine PortView.replay_reads (fun access member => ?_) _
  rcases List.mem_cons.mp member with rfl | last
  · exact nofun
  · rw [List.mem_singleton.mp last]
    exact nofun

theorem portView_clear (wired : device.bench.outputs.get index = true) {address : UInt16}
    (direction : Ports.directionAt? (busAddress address) = some index) :
    (write address 0 .program device).2.portView index =
      (device.portView index).set { (device.portView index).port with direction := 0 } := by
  obtain ⟨-, view⟩ := (Viewed.boardAccount index).write address 0 device wired
  rw [view]
  change (device.portView index).pass index (.access (.write address 0)) = _
  rw [PortView.pass_of_write (BusAccess.portWrite?_direction direction 0), PortOperation.sets,
    UInt8.zero_and]

/-- The board does not hear of it when a reset releases the outputs of a port.

* A reset makes all pins inputs and tells nothing. So a view of the port that was current stays so
  only if the port drove no pins.
* A program that clears the direction register releases the outputs as well, and tells. So a view
  that was current stays so.
* Over a run, with whatever resets, a view that was current is out of date exactly if a reset has
  struck while the port drove pins, and the program has made none of them outputs since. -/
theorem reset_releases_unheard (wired : device.bench.outputs.get index = true) :
    (((reset device).2.ports.get index).outputs = (0, 0) ∧
      (reset device).2.bench.told index = device.bench.told index ∧
      ((device.portView index).Current →
        (((reset device).2.portView index).Current ↔ (device.ports.get index).direction = 0))) ∧
    (∀ address, Ports.directionAt? (busAddress address) = some index →
      ((write address 0 .program device).2.ports.get index).outputs = (0, 0) ∧
        ((device.portView index).Current →
          ((write address 0 .program device).2.portView index).Current)) ∧
    ((device.portView index).Current →
      ∀ operations : List Operation, (∀ operation ∈ operations, operation.ofBoard = true) →
        (((runAll operations device).portView index).Current ↔
          ¬ (device.portView index).Slipped index
            (along Operation.events operations device))) := by
  refine ⟨?_, fun address direction => ?_, fun current operations board => ?_⟩
  · have view := portView_reset wired
    have outputs : ((reset device).2.ports.get index).outputs = (0, 0) :=
      Port.outputs_of_inputs (congrArg (·.port.direction) view :)
    have told : (reset device).2.bench.told index = device.bench.told index :=
      (congrArg PortView.told view :)
    refine ⟨outputs, told, fun current => ?_⟩
    have known : device.bench.told index = (device.ports.get index).outputs := current
    change (reset device).2.bench.told index = ((reset device).2.ports.get index).outputs ↔ _
    rw [outputs, told, known]
    exact ⟨congrArg Prod.snd, Port.outputs_of_inputs⟩
  · have view := portView_clear wired direction
    refine ⟨Port.outputs_of_inputs (congrArg (·.port.direction) view :), fun current => ?_⟩
    rw [view]
    exact PortView.set_current current _
  · obtain ⟨-, view⟩ := (Viewed.boardAccount index).run board device wired
    rw [view]
    exact PortView.current_iff_of_settled current (.along operations device)

/-- A board that listens to port A, of which the program drives four pins when the reset strikes. -/
theorem reset_releases_unheard_at_port_a :
    let start := (start { new .c4 4000000 with bench := Bench.bare.wireOutput 0 }).2
    let device := (write 0x0004 0x0F .program start).2
    device.bench.outputs.get 0 = true ∧ (device.portView 0).Current ∧
      ¬ ((reset device).2.portView 0).Current := by
  intro start device
  have wired : device.bench.outputs.get 0 = true := by decide +kernel
  have current : (device.portView 0).Current := by
    unfold PortView.Current
    decide +kernel
  obtain ⟨⟨-, -, stays⟩, -, -⟩ := reset_releases_unheard wired
  refine ⟨wired, current, fun still => ?_⟩
  have driven : (device.ports.get 0).direction = 0x0F := by decide +kernel
  exact absurd (driven.symm.trans ((stays current).mp still)) (by decide)

/-- After the reset the board takes the four pins for driven, of which none is. Had the program
cleared the direction register, it would know. -/
theorem released_pins_overlooked :
    let start := (start { new .c4 4000000 with bench := Bench.bare.wireOutput 0 }).2
    let device := (write 0x0004 0x0F .program start).2
    ((reset device).2.ports.get 0).outputs = (0, 0) ∧
      (reset device).2.bench.told 0 = (0x0F, 0x0F) ∧
      (write 0x0004 0 .program device).2.bench.told 0 = (0, 0) := by
  decide +kernel

end Device
end M68HC05
