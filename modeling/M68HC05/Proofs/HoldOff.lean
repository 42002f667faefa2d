import M68HC05.Proofs.CompareMatch
import M68HC05.Proofs.Signals
import M68HC05.Proofs.StepEvents
import M68HC05.Proofs.TimerWindow

/-!
Captures and compares that are held off. A capture would tear the capture register between the
reads of its bytes, and a compare would match a register that is half written. So a read of the
high byte of the one holds off captures until its low byte is read, and a write to the high byte of
the other holds off compares until its low byte is written. Outside these windows nothing is missed
and nothing is made up: the register follows the selected edge of the pin, and each match that the
timer sees is reported (`TimerEvent.held_off_in_windows`).
-/

namespace M68HC05

/-! ## Captures and compares of the timer -/

namespace Timer

variable {timer : Timer} {register : TimerRegister} {access : Access} {level : Bool}

/-- The selected edge of the pin captures the counter, unless captures are held off. -/
theorem setCaptureLevel_captures
    (edge : level ≠ timer.captureLevel ∧ (level = true ↔ timer.control &&& captureEdge ≠ 0))
    (free : ¬ timer.captureInhibited = true) :
    (timer.setCaptureLevel level).next = { timer with
      captureLevel := level
      status := timer.status ||| captureFlag
      capture := timer.counter } := by
  unfold setCaptureLevel
  dsimp only
  rw [if_pos ⟨edge.1, propext edge.2⟩, if_neg free]

/-- The pin does nothing else. -/
theorem setCaptureLevel_idle
    (idle : ¬ ((level ≠ timer.captureLevel ∧ (level = true ↔ timer.control &&& captureEdge ≠ 0)) ∧
      ¬ timer.captureInhibited = true)) :
    (timer.setCaptureLevel level).next = { timer with captureLevel := level } := by
  unfold setCaptureLevel
  dsimp only
  split
  · rename_i edge
    have held : timer.captureInhibited = true :=
      Decidable.not_not.mp fun free => idle ⟨⟨edge.1, edge.2.to_iff⟩, free⟩
    rw [if_pos held]
  · rfl

/-- Time raises flags other than that of captures. -/
theorem captureFlag_advance (cycles : Nat) :
    StatusFlag.capture.In (timer.advance cycles).next.status ↔
      StatusFlag.capture.In timer.status := by
  have apart : timer.raised cycles &&& captureFlag = 0 := by
    unfold Timer.raised
    rw [or_and_right8, UInt8.or_eq_zero_iff]
    constructor
    · split
      · decide
      · decide
    · split
      · decide
      · decide
  change (timer.status ||| timer.raised cycles) &&& captureFlag ≠ 0 ↔
    timer.status &&& captureFlag ≠ 0
  rw [or_and_right8, apart, UInt8.or_zero]

/-- The pin raises flags other than that of compares. -/
theorem compareFlag_setCaptureLevel (level : Bool) :
    StatusFlag.compare.In (timer.setCaptureLevel level).next.status ↔
      StatusFlag.compare.In timer.status := by
  have apart : captureFlag &&& compareFlag = 0 := by decide
  unfold setCaptureLevel
  dsimp only
  split
  · dsimp only
    split
    · exact Iff.rfl
    · change (timer.status ||| captureFlag) &&& compareFlag ≠ 0 ↔ _
      rw [or_and_right8, apart, UInt8.or_zero]
      exact Iff.rfl
  · exact Iff.rfl

/-- Only program reads of the capture register hold off captures or let them in again. -/
theorem captureInhibited_readAt (quiet : access = .program → ∀ half, register ≠ .capture half) :
    (timer.readAt register access).next.captureInhibited = timer.captureInhibited := by
  rcases timer.readAt_cases register access with ⟨half, status, seen, program, named, -⟩ |
    ⟨channel, half, low, status, seen, -, -, same⟩ | ⟨status, seen, same⟩
  · exact absurd named (quiet program half)
  · rw [same]
    cases channel with
    | _ => rfl
  · rw [same]

/-- Only program writes to the compare register hold off compares or let them in again. -/
theorem compareInhibited_writeAt {byte : UInt8}
    (quiet : access = .program → ∀ half, register ≠ .compare half) :
    (timer.writeAt register byte access).next.compareInhibited = timer.compareInhibited := by
  rcases timer.writeAt_cases register byte access with
    ⟨half, status, seen, compare, program, named, -⟩ | ⟨control, compare, same⟩
  · exact absurd named (quiet program half)
  · rw [same]

/-- What reads leave alone: the pin, the capture register and the hold on compares. -/
theorem readAt_keeps (timer : Timer) (register : TimerRegister) (access : Access) :
    (timer.readAt register access).next.captureLevel = timer.captureLevel ∧
      (timer.readAt register access).next.capture = timer.capture ∧
      (timer.readAt register access).next.compareInhibited = timer.compareInhibited := by
  rcases timer.readAt_cases register access with ⟨half, status, seen, -, -, same⟩ |
    ⟨channel, half, low, status, seen, -, -, same⟩ | ⟨status, seen, same⟩
  · rw [same]
    exact ⟨rfl, rfl, rfl⟩
  · rw [same]
    cases channel with
    | _ => exact ⟨rfl, rfl, rfl⟩
  · rw [same]
    exact ⟨rfl, rfl, rfl⟩

/-- What writes leave alone: the pin, the capture register and the hold on captures. -/
theorem writeAt_keeps (timer : Timer) (register : TimerRegister) (byte : UInt8) (access : Access) :
    (timer.writeAt register byte access).next.captureLevel = timer.captureLevel ∧
      (timer.writeAt register byte access).next.capture = timer.capture ∧
      (timer.writeAt register byte access).next.captureInhibited = timer.captureInhibited := by
  rcases timer.writeAt_cases register byte access with
    ⟨half, status, seen, compare, -, -, same⟩ | ⟨control, compare, same⟩
  · rw [same]
    exact ⟨rfl, rfl, rfl⟩
  · rw [same]
    exact ⟨rfl, rfl, rfl⟩

end Timer

/-! ## Compare outputs -/

/-- The level that a signal puts out on the compare pin, if it does. -/
def Signal.compareOutput? : Signal → Option Bool
  | compareOutput level => some level
  | _ => none

namespace Bench

/-- The levels of the compare output that the board has heard of, latest first. -/
def compareOutputs (bench : Bench) : List Bool :=
  bench.history.filterMap Signal.compareOutput?

variable {signals : List Signal} {before after : Bench}

theorem Sent.compareOutputs (sent : Sent signals before after) :
    after.compareOutputs =
      ((signals.filter before.hears).filterMap Signal.compareOutput?).reverse ++
        before.compareOutputs := by
  unfold Bench.compareOutputs
  rw [sent.history, List.filterMap_append, List.filterMap_reverse]

/-- Nothing is put out by a signal of another kind that is sent on a condition. -/
theorem Sent.compareOutputs_eq {condition : Prop} [Decidable condition] {signal : Signal}
    (sent : Sent (if condition then [signal] else []) before after)
    (other : signal.compareOutput? = none) : after.compareOutputs = before.compareOutputs := by
  have unheard : ((if condition then [signal] else []).filter before.hears).filterMap
      Signal.compareOutput? = [] := by
    refine List.filterMap_eq_nil_iff.mpr fun found member => ?_
    have among := (List.mem_filter.mp member).1
    split at among
    · rw [List.mem_singleton.mp among]
      exact other
    · cases among
  rw [sent.compareOutputs, unheard]
  rfl

end Bench

namespace Device

open M68HC05.Action

variable {address : UInt16} {access : Access}

/-- The levels of the compare output that the board has heard of, latest first. -/
def compareOutputs (device : Device) : List Bool :=
  device.bench.compareOutputs

theorem compareOutputs_of_unheard {α : Type} {action : Action α} (unheard : Moves Unheard action) :
    Moves (Same compareOutputs) action :=
  fun device => (unheard device).compareOutputs

/-- Reads put out nothing on the compare pin. -/
theorem compareOutputs_read (address : UInt16) (access : Access) :
    Moves (Same compareOutputs) (Device.read address access) := by
  refine Moves.read (Same.flow _) (fun variant handler offset _ => ?_) fun _ byte => ?_
  · by_cases data : handler = .portData
    · rw [data]
      exact fun device => (readPort_sends _ access device).compareOutputs_eq rfl
    · exact compareOutputs_of_unheard (readHandler_unheard data offset _ access)
  · exact compareOutputs_of_unheard (unheard_observe _ _ byte none)

/-- Neither do writes. -/
theorem compareOutputs_write (address : UInt16) (byte : UInt8) (access : Access) :
    Moves (Same compareOutputs) (Device.write address byte access) := by
  refine Moves.write (Same.flow _) (fun variant handler offset _ => ?_) fun _ previous => ?_
  · by_cases data : handler = .portData
    · rw [data]
      intro device
      let index := Ports.wrapIndex offset.toNat
      have sent := device.bench.sent_record
        (Port.writeLatch index (device.ports.get index) byte).report
      rw [Port.signalsOf_writeLatch] at sent
      exact sent.compareOutputs_eq rfl
    by_cases direction : handler = .portDirection
    · rw [direction]
      intro device
      let index := Ports.wrapIndex offset.toNat
      have sent := device.bench.sent_record
        (Port.writeDirection index (device.ports.get index) byte).report
      rw [Port.signalsOf_writeDirection] at sent
      exact sent.compareOutputs_eq rfl
    · exact compareOutputs_of_unheard (writeHandler_unheard data direction offset _ byte access)
  · exact compareOutputs_of_unheard (unheard_observe _ _ byte previous)

/-- A match that is not held off puts out the selected level, once. -/
theorem compareOutputs_charge_match {cycles : Nat} {device : Device}
    (fires : device.timer.reachesCompare cycles = true ∧ device.timer.compareInhibited = false) :
    (charge cycles device).2.compareOutputs =
      (if device.bench.compareWired then
        [decide (device.timer.control &&& Timer.outputLevel ≠ 0)]
      else []) ++ device.compareOutputs := by
  have sent := device.charge_sends cycles
  rw [if_pos fires] at sent
  refine sent.compareOutputs.trans ?_
  split
  · rename_i wired
    have heard : device.bench.hears
        (.compareOutput (device.timer.control &&& Timer.outputLevel ≠ 0)) = true := wired
    rw [List.filter_cons_of_pos heard]
    rfl
  · rename_i unwired
    have unheard : ¬ device.bench.hears
        (.compareOutput (device.timer.control &&& Timer.outputLevel ≠ 0)) = true := unwired
    rw [List.filter_cons_of_neg unheard]
    rfl

/-- Time puts out nothing else. -/
theorem compareOutputs_charge_idle {cycles : Nat} {device : Device}
    (idle : ¬ (device.timer.reachesCompare cycles = true ∧
      device.timer.compareInhibited = false)) :
    (charge cycles device).2.compareOutputs = device.compareOutputs := by
  have sent := device.charge_sends cycles
  rw [if_neg idle] at sent
  exact sent.compareOutputs

end Device

namespace TimerEvent

variable {event : TimerEvent} {past : List TimerEvent} {device start : Device} {flag : StatusFlag}

/-! ## Marks of the timer and the past -/

/-- The level of the capture pin: the last one driven, and low after power-on. -/
def pinLevel (past : List TimerEvent) : Bool :=
  past.foldl (fun level event => match event with
    | drive driven => driven
    | _ => level) false

/-- Captures are held off: the high byte of the capture register has been read, and the low byte has
not been read since. -/
def CaptureHeld (past : List TimerEvent) : Prop :=
  Since (Reads (.capture .high)) (Reads (.capture .low)) past

/-- Compares are held off: the high byte of the compare register has been written, and the low byte
has not been written since. -/
def CompareHeld (past : List TimerEvent) : Prop :=
  Since (Writes (.compare .high)) (Writes (.compare .low)) past

/-- Only the pin captures. -/
theorem run_undriven (undriven : ∀ level, event ≠ drive level) (device : Device) :
    (event.run device).timer.captureLevel = device.timer.captureLevel ∧
      (event.run device).timer.capture = device.timer.capture ∧
      (StatusFlag.capture.In (event.run device).timer.status →
        StatusFlag.capture.In device.timer.status) := by
  refine run_timer (P := fun timer => timer.captureLevel = device.timer.captureLevel ∧
    timer.capture = device.timer.capture ∧
    (StatusFlag.capture.In timer.status → StatusFlag.capture.In device.timer.status))
    ⟨rfl, rfl, id⟩ ?_ ?_ ?_ ?_
  · exact fun cycles _ => ⟨rfl, rfl, (Timer.captureFlag_advance cycles).mp⟩
  · exact fun level driven => absurd driven (undriven level)
  · intro register access _
    obtain ⟨level, capture, -⟩ := device.timer.readAt_keeps register access
    exact ⟨level, capture, device.timer.status_readAt .capture⟩
  · intro register byte access _
    obtain ⟨level, capture, -⟩ := device.timer.writeAt_keeps register byte access
    exact ⟨level, capture, device.timer.status_writeAt .capture⟩

/-- Only time compares. -/
theorem run_unpassed (unpassed : ∀ cycles, event ≠ pass cycles) (device : Device) :
    (StatusFlag.compare.In (event.run device).timer.status →
      StatusFlag.compare.In device.timer.status) ∧
    (event.run device).compareOutputs = device.compareOutputs := by
  constructor
  · refine run_timer (P := fun timer => StatusFlag.compare.In timer.status →
      StatusFlag.compare.In device.timer.status) id ?_ ?_ ?_ ?_
    · exact fun cycles passed => absurd passed (unpassed cycles)
    · exact fun level _ => (Timer.compareFlag_setCaptureLevel level).mp
    · exact fun register access _ => device.timer.status_readAt .compare
    · exact fun register byte access _ => device.timer.status_writeAt .compare
  · cases event with
    | pass cycles => exact absurd rfl (unpassed cycles)
    | drive level =>
      exact Device.compareOutputs_of_unheard (Device.setCaptureLine_unheard level) device
    | read address access => exact Device.compareOutputs_read address access device
    | write address byte access => exact Device.compareOutputs_write address byte access device

theorem captureLevel_after (low : start.timer.captureLevel = false) (past : List TimerEvent) :
    (after past start).timer.captureLevel = pinLevel past := by
  induction past using List.reverseRecOn with
  | nil => exact low
  | append_singleton past event ih =>
    have level : pinLevel (past ++ [event]) = match event with
        | drive driven => driven
        | _ => pinLevel past :=
      List.foldl_append
    rw [after_concat, level]
    cases event with
    | drive driven =>
      obtain ⟨status, capture, same⟩ := (after past start).timer.setCaptureLevel_eq driven
      exact congrArg Timer.captureLevel same
    | _ => exact (run_undriven (fun _ => TimerEvent.noConfusion) _).1.trans ih

theorem captureInhibited_iff_held (free : start.timer.captureInhibited = false)
    (past : List TimerEvent) :
    (after past start).timer.captureInhibited = true ↔ CaptureHeld past := by
  refine marks_iff_since (fun device => device.timer.captureInhibited = true)
    (ne_true_of_eq_false free) ?_ ?_ ?_ past
  · intro event high device
    rw [run_reads high]
    rfl
  · intro event low device
    rw [run_reads low]
    exact Bool.false_ne_true
  · intro event high low device
    have same : (event.run device).timer.captureInhibited = device.timer.captureInhibited := by
      refine run_timer (P := fun timer => timer.captureInhibited = device.timer.captureInhibited)
        rfl ?_ ?_ ?_ ?_
      · exact fun cycles _ => rfl
      · intro level _
        obtain ⟨status, capture, same⟩ := device.timer.setCaptureLevel_eq level
        rw [same]
      · intro register access reads
        refine Timer.captureInhibited_readAt fun program half named => ?_
        rw [named] at reads
        cases half with
        | high => exact high (reads program)
        | low => exact low (reads program)
      · exact fun register byte access _ => (device.timer.writeAt_keeps register byte access).2.2
    rw [same]

theorem compareInhibited_iff_held (free : start.timer.compareInhibited = false)
    (past : List TimerEvent) :
    (after past start).timer.compareInhibited = true ↔ CompareHeld past := by
  refine marks_iff_since (fun device => device.timer.compareInhibited = true)
    (ne_true_of_eq_false free) ?_ ?_ ?_ past
  · intro event high device
    obtain ⟨byte, written⟩ := run_writes high device
    rw [written]
    rfl
  · intro event low device
    obtain ⟨byte, written⟩ := run_writes low device
    rw [written]
    exact Bool.false_ne_true
  · intro event high low device
    have same : (event.run device).timer.compareInhibited = device.timer.compareInhibited := by
      refine run_timer (P := fun timer => timer.compareInhibited = device.timer.compareInhibited)
        rfl ?_ ?_ ?_ ?_
      · exact fun cycles _ => rfl
      · intro level _
        obtain ⟨status, capture, same⟩ := device.timer.setCaptureLevel_eq level
        rw [same]
      · exact fun register access _ => (device.timer.readAt_keeps register access).2.2
      · intro register byte access writes
        refine Timer.compareInhibited_writeAt fun program half named => ?_
        rw [named] at writes
        cases half with
        | high => exact high (writes program)
        | low => exact low (writes program)
    rw [same]

/-! ## Captures and compares of a run -/

/-- An event takes the capture pin to another level, which is the one that the control register
selects. -/
def Edge (past : List TimerEvent) (device : Device) : TimerEvent → Prop
  | drive level =>
    level ≠ pinLevel past ∧ (level = true ↔ device.timer.control &&& Timer.captureEdge ≠ 0)
  | _ => False

/-- Time passes in which the counter reaches the compare register. -/
def Matches (device : Device) : TimerEvent → Prop
  | pass cycles => device.timer.reachesCompare cycles = true
  | _ => False

/-- A flag goes from clear to set. -/
def Rises (flag : StatusFlag) (event : TimerEvent) (device : Device) : Prop :=
  ¬ flag.In device.timer.status ∧ flag.In (event.run device).timer.status

/-- The selected edge of the pin captures the counter. -/
theorem capture_at_edge (pin : device.timer.captureLevel = pinLevel past)
    (edge : Edge past device event) (free : ¬ device.timer.captureInhibited = true) :
    (event.run device).timer.capture = device.timer.counter ∧
      StatusFlag.capture.In (event.run device).timer.status := by
  cases event with
  | drive level =>
    have moved : level ≠ device.timer.captureLevel := by
      rw [pin]
      exact edge.1
    have captured : ((drive level).run device).timer = { device.timer with
        captureLevel := level
        status := device.timer.status ||| Timer.captureFlag
        capture := device.timer.counter } :=
      Timer.setCaptureLevel_captures ⟨moved, edge.2⟩ free
    rw [captured]
    refine ⟨rfl, ?_⟩
    rw [UInt8.or_comm]
    have up : StatusFlag.capture.In Timer.captureFlag := by decide
    exact up.or device.timer.status
  | _ => exact edge.elim

/-- Any other event captures nothing, and neither does an edge while captures are held off. -/
theorem capture_otherwise (pin : device.timer.captureLevel = pinLevel past)
    (idle : ¬ (Edge past device event ∧ ¬ device.timer.captureInhibited = true)) :
    (event.run device).timer.capture = device.timer.capture ∧ ¬ Rises .capture event device := by
  by_cases driven : ∃ level, event = drive level
  · obtain ⟨level, rfl⟩ := driven
    have same : ((drive level).run device).timer = { device.timer with captureLevel := level } := by
      refine Timer.setCaptureLevel_idle fun captures => idle ⟨⟨?_, captures.1.2⟩, captures.2⟩
      rw [← pin]
      exact captures.1.1
    unfold Rises
    rw [same]
    exact ⟨rfl, fun rises => rises.1 rises.2⟩
  · obtain ⟨-, capture, status⟩ := run_undriven (not_exists.mp driven) device
    exact ⟨capture, fun rises => rises.1 (status rises.2)⟩

/-- The capture register stays from a read of its high byte until its low byte is read. -/
theorem capture_in_window {high : TimerEvent} {earlier later : List TimerEvent}
    (low : start.timer.captureLevel = false) (free : start.timer.captureInhibited = false)
    (opens : high.Reads (.capture .high))
    (unread : ∀ event ∈ later, ¬ event.Reads (.capture .low)) :
    (after (earlier ++ high :: later) start).timer.capture =
      (after earlier start).timer.capture := by
  induction later using List.reverseRecOn with
  | nil =>
    have undriven : ∀ level, high ≠ drive level := by
      rintro level rfl
      exact opens
    rw [after_concat]
    exact (run_undriven undriven _).2.1
  | append_singleton later event ih =>
    have before : ∀ event ∈ later, ¬ event.Reads (.capture .low) :=
      fun event member => unread event (List.mem_append_left _ member)
    have held : CaptureHeld (earlier ++ high :: later) :=
      ⟨earlier, high, later, rfl, opens, before⟩
    rw [← List.cons_append, ← List.append_assoc, after_concat]
    refine (capture_otherwise (captureLevel_after low _) fun captures => captures.2 ?_).1.trans
      (ih before)
    exact (captureInhibited_iff_held free _).mpr held

/-- A match sets the compare flag and puts out the selected level. -/
theorem compare_at_match (reaches : Matches device event)
    (free : ¬ device.timer.compareInhibited = true) :
    StatusFlag.compare.In (event.run device).timer.status ∧
      (event.run device).compareOutputs =
        (if device.bench.compareWired then
          [decide (device.timer.control &&& Timer.outputLevel ≠ 0)]
        else []) ++ device.compareOutputs := by
  cases event with
  | pass cycles =>
    have fires : device.timer.reachesCompare cycles = true ∧
        device.timer.compareInhibited = false := ⟨reaches, Bool.eq_false_iff.mpr free⟩
    have timer : ((pass cycles).run device).timer = (device.timer.advance cycles).next :=
      device.charge_timer cycles
    refine ⟨?_, Device.compareOutputs_charge_match fires⟩
    rw [timer]
    exact (device.timer.compareFlag_advance_iff cycles).mpr (.inr fires)
  | _ => exact reaches.elim

/-- Any other event compares nothing, and neither does a match while compares are held off. -/
theorem compare_otherwise
    (idle : ¬ (Matches device event ∧ ¬ device.timer.compareInhibited = true)) :
    ¬ Rises .compare event device ∧ (event.run device).compareOutputs = device.compareOutputs := by
  by_cases passed : ∃ cycles, event = pass cycles
  · obtain ⟨cycles, rfl⟩ := passed
    have quiet : ¬ (device.timer.reachesCompare cycles = true ∧
        device.timer.compareInhibited = false) :=
      fun fires => idle ⟨fires.1, ne_true_of_eq_false fires.2⟩
    have timer : ((pass cycles).run device).timer = (device.timer.advance cycles).next :=
      device.charge_timer cycles
    refine ⟨?_, Device.compareOutputs_charge_idle quiet⟩
    rintro ⟨down, up⟩
    rw [timer] at up
    exact ((device.timer.compareFlag_advance_iff cycles).mp up).elim down quiet
  · obtain ⟨status, outputs⟩ := run_unpassed (not_exists.mp passed) device
    exact ⟨fun rises => rises.1 (status rises.2), outputs⟩

theorem start_timer (device : Device) :
    (Device.start device).2.timer = device.timer.powerOn.reset := by
  obtain ⟨watches, bench, same⟩ := device.powered.reset_apply
  exact congrArg Device.timer same

/-- Captures and compares are held off inside the windows of their registers, and only there. From
power-on, whatever happens:

* an event that is the selected edge of the capture pin, while captures are not held off, takes the
  counter into the capture register and sets the capture flag; any other event leaves the register
  alone and does not make the flag rise;
* so the byte that ends a read of the capture register fits the one that began it;
* an event that is a match, while compares are not held off, sets the compare flag and puts out the
  selected level, once; any other event does not make the flag rise and puts out nothing. -/
theorem held_off_in_windows (device : Device) (past : List TimerEvent) :
    let start := (Device.start device).2
    let present := after past start
    (∀ event : TimerEvent,
      (Edge past present event ∧ ¬ CaptureHeld past →
        (event.run present).timer.capture = present.timer.counter ∧
          StatusFlag.capture.In (event.run present).timer.status) ∧
      (¬ (Edge past present event ∧ ¬ CaptureHeld past) →
        (event.run present).timer.capture = present.timer.capture ∧
          ¬ Rises .capture event present)) ∧
    (∀ earlier high later low, past = earlier ++ read high .program :: later →
      busAddress high = (TimerRegister.capture .high).address →
      (∀ event ∈ later, ¬ event.Reads (.capture .low)) →
      busAddress low = (TimerRegister.capture .low).address →
        let moment := after earlier start
        joinBytes (Device.read high .program moment).1 (Device.read low .program present).1 =
          moment.timer.capture) ∧
    ∀ event : TimerEvent,
      (Matches present event ∧ ¬ CompareHeld past →
        StatusFlag.compare.In (event.run present).timer.status ∧
          (event.run present).compareOutputs =
            (if present.bench.compareWired then
              [decide (present.timer.control &&& Timer.outputLevel ≠ 0)]
            else []) ++ present.compareOutputs) ∧
      (¬ (Matches present event ∧ ¬ CompareHeld past) →
        ¬ Rises .compare event present ∧
          (event.run present).compareOutputs = present.compareOutputs) := by
  intro start present
  have begun : start.timer = device.timer.powerOn.reset := start_timer device
  have low : start.timer.captureLevel = false := congrArg Timer.captureLevel begun
  have free : start.timer.captureInhibited = false := congrArg Timer.captureInhibited begun
  have pin : present.timer.captureLevel = pinLevel past := captureLevel_after low past
  have captures : present.timer.captureInhibited = true ↔ CaptureHeld past :=
    captureInhibited_iff_held free past
  have compares : present.timer.compareInhibited = true ↔ CompareHeld past :=
    compareInhibited_iff_held (congrArg Timer.compareInhibited begun) past
  rw [← captures, ← compares]
  refine ⟨fun event => ⟨?_, capture_otherwise pin⟩, ?_, fun event => ⟨?_, compare_otherwise⟩⟩
  · exact fun captured => capture_at_edge pin captured.1 captured.2
  · rintro earlier high later low' rfl opens unread ends moment
    have opening : Reads (.capture .high) (read high .program) := ⟨rfl, opens⟩
    have kept : present.timer.capture = moment.timer.capture :=
      capture_in_window low free opening unread
    have top : (Device.read high .program moment).1 = Half.high.byteOf moment.timer.capture :=
      (Device.read_at opens .program moment).1
    have bottom : (Device.read low' .program present).1 = Half.low.byteOf present.timer.capture :=
      (Device.read_at ends .program present).1
    rw [top, bottom, kept]
    exact Half.joinBytes_byteOf moment.timer.capture
  · exact fun matched => compare_at_match matched.1 matched.2

/-- An edge that comes between the reads of the capture register is lost, and the two bytes are
those of the capture before. The next edge after them is captured again. -/
theorem held_off_in_windows_at_second_edge :
    let start := (Device.start (.new .c8 4000000)).2
    let first := [.write 0x0012 0x02 .program, .pass 40, .drive true]
    let between := [.drive false, .pass 500, .drive true]
    let moment := after first start
    let window := first ++ .read 0x0014 .program :: between
    let reopened := window ++ [.read 0x0015 .program, .drive false, .pass 500]
    joinBytes (Device.read 0x0014 .program moment).1
        (Device.read 0x0015 .program (after window start)).1 = moment.timer.capture ∧
      (after (reopened ++ [.drive true]) start).timer.capture =
        (after reopened start).timer.counter := by
  intro start first between moment window reopened
  have unread : ∀ event ∈ between, ¬ event.Reads (.capture .low) := by
    intro event member
    simp only [between, List.mem_cons, List.not_mem_nil, or_false] at member
    rcases member with rfl | rfl | rfl
    · exact id
    · exact id
    · exact id
  have begun : (Device.start (.new .c8 4000000)).2 = start := rfl
  have windows := held_off_in_windows (.new .c8 4000000) window
  have pair := windows.2.1 first 0x0014 between 0x0015 rfl rfl unread rfl
  rw [begun] at pair
  have edge : Edge reopened (after reopened start) (.drive true) := by
    refine ⟨by decide, iff_of_true rfl ?_⟩
    decide +kernel
  have free : ¬ CaptureHeld reopened := by
    have unheld : start.timer.captureInhibited = false :=
      congrArg Timer.captureInhibited (start_timer (.new .c8 4000000))
    rw [← captureInhibited_iff_held unheld]
    decide +kernel
  have captured := ((held_off_in_windows (.new .c8 4000000) reopened).1 (.drive true)).1
    ⟨edge, free⟩
  rw [← after_concat, begun] at captured
  exact ⟨pair, captured.1⟩

end TimerEvent
end M68HC05
