import M68HC05.Proofs.StatusHistory

/-!
Windows in a run of the timer. A program access to one half of a register pair opens a window, and
an access to the other half closes it. The timer keeps a mark for each kind of window, and the mark
sums up the past: it is set exactly if the window has been opened and not been closed since
(`TimerEvent.Since`, `TimerEvent.marks_iff_since`). What an event can do to the timer at all is told
once, by `TimerEvent.run_timer` and by the two lemmas on accesses, `Timer.readAt_cases` and
`Timer.writeAt_cases`.
-/

namespace M68HC05

/-! ## What an access changes -/

namespace Timer

variable (timer : Timer) {register : TimerRegister} {access : Access}

theorem clearFlag_eq (flag : UInt8) : ∃ status seen,
    timer.clearFlag flag = { timer with status, seen } := by
  unfold clearFlag
  split
  · exact ⟨_, _, rfl⟩
  · exact ⟨timer.status, timer.seen, rfl⟩

/-- The capture pin changes its level, the capture register and its flag at most. -/
theorem setCaptureLevel_eq (level : Bool) : ∃ status capture,
    (timer.setCaptureLevel level).next =
      { timer with captureLevel := level, status, capture } := by
  unfold setCaptureLevel
  dsimp only
  split
  · dsimp only
    split
    · exact ⟨timer.status, timer.capture, rfl⟩
    · exact ⟨_, _, rfl⟩
  · exact ⟨timer.status, timer.capture, rfl⟩

/-- Besides status flags, a read changes the hold on captures or the low byte of a channel, and only
if the program reads the capture register or that channel. -/
theorem readAt_cases (register : TimerRegister) (access : Access) :
    (∃ half status seen, access = .program ∧ register = .capture half ∧
      (timer.readAt register access).next =
        { timer with status, seen, captureInhibited := decide (half = .high) }) ∨
    (∃ channel half low status seen, access = .program ∧ register = .counter channel half ∧
      (timer.readAt register access).next =
        { timer.setLowByte channel low with status, seen }) ∨
    ∃ status seen, (timer.readAt register access).next = { timer with status, seen } := by
  cases access with
  | debugger =>
    refine .inr (.inr ⟨timer.status, timer.seen, ?_⟩)
    cases register with
    | counter channel half =>
      cases half with
      | _ => rfl
    | _ => rfl
  | program =>
    cases register with
    | control => exact .inr (.inr ⟨_, _, rfl⟩)
    | status => exact .inr (.inr ⟨_, _, rfl⟩)
    | capture half =>
      cases half with
      | high => exact .inl ⟨.high, _, _, rfl, rfl, rfl⟩
      | low =>
        obtain ⟨status, seen, cleared⟩ := timer.clearFlag_eq captureFlag
        refine .inl ⟨.low, status, seen, rfl, rfl, ?_⟩
        dsimp only [readAt, readCapture]
        rw [cleared]
        rfl
    | compare half =>
      cases half with
      | high => exact .inr (.inr ⟨_, _, rfl⟩)
      | low => exact .inr (.inr (timer.clearFlag_eq compareFlag))
    | counter channel half =>
      refine .inr (.inl ?_)
      cases half with
      | high =>
        by_cases latched : (timer.lowByte channel).latched = true
        · refine ⟨channel, .high, timer.lowByte channel, timer.status, timer.seen, rfl, rfl, ?_⟩
          dsimp only [readAt, readCounterHigh]
          rw [if_neg fun fresh => fresh.2 latched]
          cases channel with
          | _ => rfl
        · refine ⟨channel, .high, ⟨timer.counter.toUInt8, true⟩, timer.status, timer.seen, rfl,
            rfl, ?_⟩
          dsimp only [readAt, readCounterHigh]
          rw [if_pos ⟨rfl, latched⟩]
          cases channel with
          | _ => rfl
      | low =>
        refine ⟨channel, .low, { timer.lowByte channel with latched := false }, ?_⟩
        cases channel with
        | normal =>
          obtain ⟨status, seen, cleared⟩ := clearFlag_eq (timer.setLowByte .normal
            { timer.normal with latched := false }) rolloverFlag
          exact ⟨status, seen, rfl, rfl, cleared⟩
        | alternate => exact ⟨_, _, rfl, rfl, rfl⟩

/-- Besides status flags and the registers written, a write changes the hold on compares, and only
if the program writes the compare register. -/
theorem writeAt_cases (register : TimerRegister) (byte : UInt8) (access : Access) :
    (∃ half status seen compare, access = .program ∧ register = .compare half ∧
      (timer.writeAt register byte access).next =
        { timer with status, seen, compare, compareInhibited := decide (half = .high) }) ∨
    ∃ control compare, (timer.writeAt register byte access).next =
      { timer with control, compare } := by
  cases register with
  | compare half =>
    cases access with
    | debugger => exact .inr ⟨_, _, rfl⟩
    | program =>
      cases half with
      | high => exact .inl ⟨.high, _, _, _, rfl, rfl, rfl⟩
      | low =>
        obtain ⟨status, seen, cleared⟩ := timer.clearFlag_eq compareFlag
        refine .inl ⟨.low, status, seen, Half.low.replaceIn timer.compare byte, rfl, rfl, ?_⟩
        dsimp only [writeAt, writeCompare]
        rw [cleared]
        rfl
  | _ => exact .inr ⟨_, _, rfl⟩

end Timer

namespace TimerEvent

variable {event : TimerEvent} {register : TimerRegister} {opens closes : TimerEvent → Prop}
  {past : List TimerEvent} {device start : Device}

/-! ## Events on the timer -/

/-- A program read of a register. -/
def Reads (register : TimerRegister) : TimerEvent → Prop
  | read address access => access = .program ∧ busAddress address = register.address
  | _ => False

/-- A program write to a register. -/
def Writes (register : TimerRegister) : TimerEvent → Prop
  | write address _ access => access = .program ∧ busAddress address = register.address
  | _ => False

/-- The timer after an event: unless the event leaves it alone, time passes, the capture pin is
driven, or a register is accessed. -/
theorem run_timer {P : Timer → Prop} (idle : P device.timer)
    (passes : ∀ cycles, event = pass cycles → P (device.timer.advance cycles).next)
    (drives : ∀ level, event = drive level → P (device.timer.setCaptureLevel level).next)
    (reads : ∀ register access, (access = .program → event.Reads register) →
      P (device.timer.readAt register access).next)
    (writes : ∀ register byte access, (access = .program → event.Writes register) →
      P (device.timer.writeAt register byte access).next) :
    P (event.run device).timer := by
  cases event with
  | pass cycles =>
    dsimp only [run]
    rw [Device.charge_timer]
    exact passes cycles rfl
  | drive level => exact drives level rfl
  | read address access =>
    by_cases named : ∃ register : TimerRegister, busAddress address = register.address
    · obtain ⟨register, names⟩ := named
      dsimp only [run]
      rw [(Device.read_at names access device).2]
      exact reads register access fun program => ⟨program, names⟩
    · have same : (run (read address access) device).timer = device.timer :=
        Device.read_elsewhere (not_exists.mp named) device
      rw [same]
      exact idle
  | write address byte access =>
    by_cases named : ∃ register : TimerRegister, busAddress address = register.address
    · obtain ⟨register, names⟩ := named
      dsimp only [run]
      rw [Device.timer_write_at names byte access device]
      exact writes register byte access fun program => ⟨program, names⟩
    · have same : (run (write address byte access) device).timer = device.timer :=
        Device.timer_write_elsewhere (not_exists.mp named) byte device
      rw [same]
      exact idle

theorem run_reads (reads : event.Reads register) (device : Device) :
    (event.run device).timer = (device.timer.readAt register .program).next := by
  cases event with
  | read address access =>
    obtain ⟨rfl, names⟩ := reads
    exact (Device.read_at names .program device).2
  | _ => exact reads.elim

theorem run_writes (writes : event.Writes register) (device : Device) : ∃ byte,
    (event.run device).timer = (device.timer.writeAt register byte .program).next := by
  cases event with
  | write address byte access =>
    obtain ⟨rfl, names⟩ := writes
    exact ⟨byte, Device.timer_write_at names byte .program device⟩
  | _ => exact writes.elim

/-! ## Windows -/

/-- A window is open: it has been opened, and not been closed since. -/
def Since (opens closes : TimerEvent → Prop) (past : List TimerEvent) : Prop :=
  ∃ earlier event later, past = earlier ++ event :: later ∧ opens event ∧
    ∀ event ∈ later, ¬ closes event

theorem not_since_nil : ¬ Since opens closes [] := by
  rintro ⟨earlier, event, later, split, -⟩
  exact List.append_ne_nil_of_right_ne_nil earlier (List.cons_ne_nil event later) split.symm

theorem since_concat :
    Since opens closes (past ++ [event]) ↔
      opens event ∨ Since opens closes past ∧ ¬ closes event := by
  constructor
  · rintro ⟨earlier, opening, later, split, opened, kept⟩
    rcases concat_eq_split split with ⟨-, rfl, -⟩ | ⟨between, rfl, rfl⟩
    · exact .inl opened
    · refine .inr ⟨⟨earlier, opening, between, rfl, opened, fun event member => ?_⟩, ?_⟩
      · exact kept event (List.mem_append_left _ member)
      · exact kept event (List.mem_append_right _ List.mem_cons_self)
  · rintro (opened | ⟨⟨earlier, opening, later, rfl, opened, kept⟩, stays⟩)
    · exact ⟨past, event, [], rfl, opened, fun event member => nomatch member⟩
    · refine ⟨earlier, opening, later ++ [event], by simp, opened, fun last member => ?_⟩
      rcases List.mem_append.mp member with before | now
      · exact kept last before
      · rw [List.mem_singleton.mp now]
        exact stays

/-- A mark of the device that is set by what opens a window, cleared by what closes it and left alone
by everything else says whether the window is open. -/
theorem marks_iff_since (Marked : Device → Prop) (clear : ¬ Marked start)
    (opened : ∀ {event}, opens event → ∀ device, Marked (run event device))
    (closed : ∀ {event}, closes event → ∀ device, ¬ Marked (run event device))
    (quiet : ∀ {event}, ¬ opens event → ¬ closes event →
      ∀ device, Marked (run event device) ↔ Marked device)
    (past : List TimerEvent) : Marked (after past start) ↔ Since opens closes past := by
  induction past using List.reverseRecOn with
  | nil => exact iff_of_false clear not_since_nil
  | append_singleton past event ih =>
    rw [after_concat, since_concat, ← ih]
    by_cases opening : opens event
    · exact iff_of_true (opened opening _) (.inl opening)
    by_cases closing : closes event
    · refine iff_of_false (closed closing _) fun still => ?_
      exact still.elim opening fun kept => kept.2 closing
    · rw [quiet opening closing]
      exact ⟨fun marked => .inr ⟨marked, closing⟩,
        fun still => still.elim (absurd · opening) And.left⟩

end TimerEvent
end M68HC05
