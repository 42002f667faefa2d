import M68HC05.Proofs.PeripheralRange
import M68HC05.Proofs.TimerWindow

/-!
The counter read as a pair of bytes. The program reads the high byte first, which latches the low
byte of the channel, and ends the pair with the low byte. Time may pass in between, high bytes may be
read again, and the other channel may be used: the low byte is that of the moment of the first high
read, so that the pair is the counter at that moment (`TimerEvent.counter_pair_whole`).
-/

namespace M68HC05

/-! ## The low byte of a channel -/

namespace Timer

variable {timer other : Timer} {register : TimerRegister} {channel : Channel} {access : Access}

theorem lowByte_eq (normal : other.normal = timer.normal)
    (alternate : other.alternate = timer.alternate) :
    other.lowByte channel = timer.lowByte channel := by
  cases channel with
  | normal => exact normal
  | alternate => exact alternate

/-- Only program reads of a channel change its low byte. -/
theorem lowByte_readAt (quiet : access = .program → ∀ half, register ≠ .counter channel half) :
    (timer.readAt register access).next.lowByte channel = timer.lowByte channel := by
  rcases timer.readAt_cases register access with ⟨half, status, seen, -, -, same⟩ |
    ⟨used, half, low, status, seen, program, rfl, same⟩ | ⟨status, seen, same⟩
  · rw [same]
    exact lowByte_eq rfl rfl
  · have ne : used ≠ channel := by
      rintro rfl
      exact quiet program half rfl
    have apart := timer.lowByte_setLowByte used channel low
    rw [if_neg ne] at apart
    rw [same, ← apart]
    exact lowByte_eq rfl rfl
  · rw [same]
    exact lowByte_eq rfl rfl

/-- The first high read of a pair latches the low byte, and further ones leave it. -/
theorem lowByte_readAt_high (timer : Timer) (channel : Channel) :
    (timer.readAt (.counter channel .high) .program).next.lowByte channel =
      if (timer.lowByte channel).latched then timer.lowByte channel
      else ⟨timer.counter.toUInt8, true⟩ := by
  dsimp only [readAt, readCounterHigh]
  by_cases latched : (timer.lowByte channel).latched = true
  · rw [if_pos latched, if_neg fun fresh => fresh.2 latched]
  · rw [if_neg latched, if_pos ⟨rfl, latched⟩, lowByte_setLowByte, if_pos rfl]

/-- A low read ends the pair. -/
theorem lowByte_readAt_low (timer : Timer) (channel : Channel) :
    (timer.readAt (.counter channel .low) .program).next.lowByte channel =
      { timer.lowByte channel with latched := false } := by
  cases channel with
  | normal =>
    obtain ⟨status, seen, cleared⟩ := clearFlag_eq (timer.setLowByte .normal
      { timer.normal with latched := false }) rolloverFlag
    dsimp only [readAt, readCounterLow, lowByte]
    rw [cleared]
    rfl
  | alternate => rfl

end Timer

namespace TimerEvent

variable {event : TimerEvent} {later : List TimerEvent} {channel : Channel} {device start : Device}

theorem lowByte_quiet (high : ¬ event.Reads (.counter channel .high))
    (low : ¬ event.Reads (.counter channel .low)) (device : Device) :
    (event.run device).timer.lowByte channel = device.timer.lowByte channel := by
  refine run_timer (P := fun timer => timer.lowByte channel = device.timer.lowByte channel) rfl
    ?_ ?_ ?_ ?_
  · exact fun cycles _ => Timer.lowByte_eq rfl rfl
  · intro level _
    obtain ⟨status, capture, same⟩ := device.timer.setCaptureLevel_eq level
    rw [same]
    exact Timer.lowByte_eq rfl rfl
  · intro register access reads
    refine Timer.lowByte_readAt fun program half named => ?_
    rw [named] at reads
    cases half with
    | high => exact high (reads program)
    | low => exact low (reads program)
  · intro register byte access _
    rcases device.timer.writeAt_cases register byte access with
      ⟨half, status, seen, compare, -, -, same⟩ | ⟨control, compare, same⟩
    · rw [same]
      exact Timer.lowByte_eq rfl rfl
    · rw [same]
      exact Timer.lowByte_eq rfl rfl

/-- A low byte is latched from the first high read of a pair until its low read. -/
theorem latched_iff_since (unlatched : (start.timer.lowByte channel).latched = false)
    (past : List TimerEvent) :
    ((after past start).timer.lowByte channel).latched = true ↔
      Since (Reads (.counter channel .high)) (Reads (.counter channel .low)) past := by
  refine marks_iff_since (fun device => (device.timer.lowByte channel).latched = true) ?_ ?_ ?_ ?_
    past
  · exact ne_true_of_eq_false unlatched
  · intro event high device
    rw [run_reads high, Timer.lowByte_readAt_high]
    split
    · assumption
    · rfl
  · intro event low device
    rw [run_reads low, Timer.lowByte_readAt_low]
    exact Bool.false_ne_true
  · intro event high low device
    rw [lowByte_quiet high low]

/-- A low byte stays until its low read if it is latched, or if no high byte is read either. -/
theorem lowByte_after (low : ∀ event ∈ later, ¬ event.Reads (.counter channel .low))
    (high : (device.timer.lowByte channel).latched = true ∨
      ∀ event ∈ later, ¬ event.Reads (.counter channel .high)) :
    (after later device).timer.lowByte channel = device.timer.lowByte channel := by
  induction later generalizing device with
  | nil => rfl
  | cons event later ih =>
    obtain ⟨unread, low⟩ := List.forall_mem_cons.mp low
    have kept : (event.run device).timer.lowByte channel = device.timer.lowByte channel := by
      by_cases reads : event.Reads (.counter channel .high)
      · have latched : (device.timer.lowByte channel).latched = true :=
          high.resolve_right fun none => none event List.mem_cons_self reads
        rw [run_reads reads, Timer.lowByte_readAt_high, if_pos latched]
      · exact lowByte_quiet reads unread device
    refine Eq.trans (ih low ?_) kept
    rw [kept]
    exact high.imp id fun none event member => none event (List.mem_cons_of_mem _ member)

/-- The first high read of a pair decides what the low byte is, until the low read. -/
theorem lowByte_after_high (unlatched : (start.timer.lowByte channel).latched = false)
    {earlier : List TimerEvent} {high : TimerEvent} (opens : high.Reads (.counter channel .high))
    (first : ¬ Since (Reads (.counter channel .high)) (Reads (.counter channel .low)) earlier)
    (unread : ∀ event ∈ later, ¬ event.Reads (.counter channel .low)) :
    (after (earlier ++ high :: later) start).timer.lowByte channel =
      ⟨(after earlier start).timer.counter.toUInt8, true⟩ := by
  have unheld := mt (latched_iff_since unlatched earlier).mp first
  have latched : (high.run (after earlier start)).timer.lowByte channel =
      ⟨(after earlier start).timer.counter.toUInt8, true⟩ := by
    rw [run_reads opens, Timer.lowByte_readAt_high, if_neg unheld]
  have ends : after (earlier ++ high :: later) start =
      after later (high.run (after earlier start)) := after_append _ _ _
  rw [ends, lowByte_after unread (.inl (congrArg LowByte.latched latched)), latched]

/-- A low read leaves the byte that it answers, until the channel is read again. -/
theorem lowByte_after_low {earlier : List TimerEvent} {low : TimerEvent}
    (closes : low.Reads (.counter channel .low))
    (idle : ∀ event ∈ later, ¬ event.Reads (.counter channel .high) ∧
      ¬ event.Reads (.counter channel .low)) (start : Device) :
    (after (earlier ++ low :: later) start).timer.lowByte channel =
      { (after earlier start).timer.lowByte channel with latched := false } := by
  have ends : after (earlier ++ low :: later) start =
      after later (low.run (after earlier start)) := after_append _ _ _
  rw [ends, lowByte_after (fun event member => (idle event member).2)
    (.inr fun event member => (idle event member).1), run_reads closes, Timer.lowByte_readAt_low]

/-! ## The pair -/

/-- A pair of counter reads is never torn. From a reset on, whatever happens, a program read of the
low byte of a channel answers as follows, by the program reads of that channel before it:

* if high bytes have been read since the last low read, the low byte of the counter at the first of
  them, so that the two bytes are the counter at that moment;
* if not, what the last low read answered;
* if there has been none, the low byte of the counter after a reset. -/
theorem counter_pair_whole (device : Device) (past : List TimerEvent) (channel : Channel)
    {address : UInt16} (low : busAddress address = (TimerRegister.counter channel .low).address) :
    let start := (Device.reset device).2
    let answer := (Device.read address .program (after past start)).1
    let High := Reads (.counter channel .high)
    let Low := Reads (.counter channel .low)
    (∀ earlier place later, past = earlier ++ read place .program :: later →
      busAddress place = (TimerRegister.counter channel .high).address →
      ¬ Since High Low earlier → (∀ event ∈ later, ¬ Low event) →
        let moment := after earlier start
        answer = moment.timer.counter.toUInt8 ∧
          joinBytes (Device.read place .program moment).1 answer = moment.timer.counter) ∧
    (∀ earlier place later, past = earlier ++ read place .program :: later →
      busAddress place = (TimerRegister.counter channel .low).address →
      (∀ event ∈ later, ¬ High event ∧ ¬ Low event) →
        answer = (Device.read place .program (after earlier start)).1) ∧
    ((∀ event ∈ past, ¬ High event ∧ ¬ Low event) → answer = 0xFC) := by
  intro start answer High Low
  have buffered : answer = ((after past start).timer.lowByte channel).buffer :=
    (Device.read_at low .program _).1
  have begun : start.timer.lowByte channel = Timer.lowByteReset := by
    obtain ⟨watches, bench, same⟩ := device.reset_apply
    have timer : start.timer = device.timer.reset := congrArg Device.timer same
    rw [timer]
    cases channel with
    | _ => rfl
  have unlatched : (start.timer.lowByte channel).latched = false := congrArg LowByte.latched begun
  refine ⟨?_, ?_, ?_⟩
  · rintro earlier place later rfl high first unread moment
    have opening : High (read place .program) := ⟨rfl, high⟩
    have bottom : answer = moment.timer.counter.toUInt8 := by
      rw [buffered, lowByte_after_high unlatched opening first unread]
    have top : (Device.read place .program moment).1 = Half.high.byteOf moment.timer.counter :=
      (Device.read_at high .program moment).1
    refine ⟨bottom, ?_⟩
    rw [bottom, top]
    exact Half.joinBytes_byteOf moment.timer.counter
  · rintro earlier place later rfl named idle
    have ending : Low (read place .program) := ⟨rfl, named⟩
    rw [buffered, lowByte_after_low ending idle]
    exact (Device.read_at named .program (after earlier start)).1.symm
  · intro idle
    have kept : (after past start).timer.lowByte channel = start.timer.lowByte channel :=
      lowByte_after (fun event member => (idle event member).2)
        (.inr fun event member => (idle event member).1)
    rw [buffered, kept, begun]
    rfl

/-- Time passes between the bytes of a pair, the high byte is read again, the other channel is used
and a debugger looks on: the pair is still the counter at the first read. -/
theorem counter_pair_whole_over_time :
    let start := (Device.reset (.new .c8 4000000)).2
    let moment := after [.pass 40] start
    let later := [.pass 1000, .read 0x001A .program, .drive true, .read 0x0019 .debugger,
      .read 0x0018 .program, .read 0x001B .program, .pass 300]
    let present := after (.pass 40 :: .read 0x0018 .program :: later) start
    let answer := (Device.read 0x0019 .program present).1
    busAddress 0x0019 = (TimerRegister.counter .normal .low).address ∧
      joinBytes (Device.read 0x0018 .program moment).1 answer = moment.timer.counter ∧
      present.timer.counter ≠ moment.timer.counter := by
  intro start moment later present answer
  have low : busAddress 0x0019 = (TimerRegister.counter .normal .low).address := rfl
  have first : ¬ Since (Reads (.counter .normal .high)) (Reads (.counter .normal .low))
      [.pass 40] := by
    rintro ⟨earlier, event, rest, split, opened, -⟩
    have member : event ∈ [TimerEvent.pass 40] := by
      rw [split]
      exact List.mem_append_right _ List.mem_cons_self
    rw [List.mem_singleton.mp member] at opened
    exact opened
  have unread : ∀ event ∈ later, ¬ event.Reads (.counter .normal .low) := by
    intro event member
    simp only [later, List.mem_cons, List.not_mem_nil, or_false] at member
    rcases member with rfl | rfl | rfl | rfl | rfl | rfl | rfl
    · exact id
    · exact fun reads => absurd reads.2 (by decide)
    · exact id
    · exact fun reads => absurd reads.1 (by decide)
    · exact fun reads => absurd reads.2 (by decide)
    · exact fun reads => absurd reads.2 (by decide)
    · exact id
  have whole := (counter_pair_whole (.new .c8 4000000) (.pass 40 :: .read 0x0018 .program :: later)
    .normal low).1 [.pass 40] 0x0018 later rfl rfl first unread
  refine ⟨low, whole.2, ?_⟩
  decide +kernel

end TimerEvent
end M68HC05
