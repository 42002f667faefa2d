import M68HC05.Proofs.StatusFlag
import Mathlib.Data.List.Induction

/-!
The status flags of the timer over whole runs. A run is a list of events from a reset on: time
passes, the capture pin is driven, and program and debugger access registers, in any order. The seen
flags of the timer sum up the past of each flag: a flag is among them exactly if the latest status
read has shown it and it has not been cleared since (`TimerEvent.seen_iff_shown`). So an access to
the register of a flag clears it exactly then, and nothing else does
(`TimerEvent.status_flags_by_protocol`).
-/

namespace M68HC05

open M68HC05.Action

/-! ## Events -/

/-- What may happen to the timer of a device. -/
inductive TimerEvent where
  | pass (cycles : Nat)
  /-- the capture pin is driven -/
  | drive (level : Bool)
  | read (address : UInt16) (access : Access)
  | write (address : UInt16) (byte : UInt8) (access : Access)

namespace TimerEvent

/-- The device after an event. -/
def run : TimerEvent → Device → Device
  | pass cycles, device => (Device.charge cycles device).2
  | drive level, device => (Device.setCaptureLine level device).2
  | read address access, device => (Device.read address access device).2
  | write address byte access, device => (Device.write address byte access device).2

/-- The device after events in order. -/
def after (events : List TimerEvent) (device : Device) : Device :=
  events.foldl (fun device event => event.run device) device

/-- A program read of the status register. -/
def Shows : TimerEvent → Prop
  | read address access => access = .program ∧ busAddress address = 0x0013
  | _ => False

/-- An access that clears a flag: a program read of its register, and for the compare flag a program
write too. -/
def Clears (flag : StatusFlag) : TimerEvent → Prop
  | read address access => access = .program ∧ busAddress address = flag.register
  | write address _ access =>
    access = .program ∧ flag = .compare ∧ busAddress address = flag.register
  | _ => False

/-- An access of a debugger. -/
def ByDebugger : TimerEvent → Prop
  | read _ access => access = .debugger
  | write _ _ access => access = .debugger
  | _ => False

/-- A flag goes from set to clear. -/
def Drops (flag : StatusFlag) (event : TimerEvent) (device : Device) : Prop :=
  flag.In device.timer.status ∧ ¬ flag.In (event.run device).timer.status

variable {event : TimerEvent} {flag : StatusFlag} {events past : List TimerEvent}
  {device start : Device}

theorem after_append (events later : List TimerEvent) (device : Device) :
    after (events ++ later) device = after later (after events device) :=
  List.foldl_append

theorem after_concat (events : List TimerEvent) (event : TimerEvent) (device : Device) :
    after (events ++ [event]) device = event.run (after events device) :=
  after_append events [event] device

/-! ## The turn of an event -/

/-- An event makes a turn of the flags. -/
structure Makes (event : TimerEvent) (turn : FlagTurn) : Prop where
  shows : turn = .shows ↔ event.Shows
  clears : ∀ flag, turn = .clears flag ↔ event.Clears flag

theorem Makes.raises (hides : ¬ event.Shows) (keeps : ∀ flag, ¬ event.Clears flag) (more : UInt8) :
    event.Makes (.raises more) where
  shows := iff_of_false (fun same => nomatch same) hides
  clears flag := iff_of_false (fun same => nomatch same) (keeps flag)

/-- An event that leaves the flags alone makes a turn that raises none. -/
theorem exists_quiet_turn (hides : ¬ event.Shows) (keeps : ∀ flag, ¬ event.Clears flag)
    (same : (event.run device).flags = device.flags) :
    ∃ turn, event.Makes turn ∧ (event.run device).flags = turn.apply device.flags :=
  ⟨.raises 0, .raises hides keeps 0, same.trans (FlagTurn.apply_raises_zero _).symm⟩

theorem exists_turn_read (address : UInt16) (access : Access) (device : Device) :
    ∃ turn, (read address access).Makes turn ∧
      ((read address access).run device).flags = turn.apply device.flags := by
  by_cases status : access = .program ∧ busAddress address = 0x0013
  · obtain ⟨rfl, status⟩ := status
    refine ⟨.shows, ⟨iff_of_true rfl ⟨rfl, status⟩, fun flag => ?_⟩,
      (Device.read_shows status device).2⟩
    refine iff_of_false (fun same => nomatch same) fun clears => ?_
    exact flag.register_ne_status (clears.2.symm.trans status)
  · by_cases register : access = .program ∧ ∃ flag : StatusFlag, busAddress address = flag.register
    · obtain ⟨rfl, flag, register⟩ := register
      refine ⟨.clears flag, ⟨iff_of_false (fun same => nomatch same) status, fun other => ?_⟩,
        Device.read_clears register device⟩
      refine ⟨?_, fun clears => ?_⟩
      · intro same
        cases same
        exact ⟨rfl, register⟩
      · exact congrArg _ (StatusFlag.register_injective (register.symm.trans clears.2))
    · refine exists_quiet_turn status (fun flag clears => ?_) (Device.quiet_read ?_ device)
      · exact register ⟨clears.1, flag, clears.2⟩
      · intro program
        exact ⟨fun at_ => status ⟨program, at_⟩, fun flag at_ => register ⟨program, flag, at_⟩⟩

theorem exists_turn_write (address : UInt16) (byte : UInt8) (access : Access) (device : Device) :
    ∃ turn, (write address byte access).Makes turn ∧
      ((write address byte access).run device).flags = turn.apply device.flags := by
  by_cases register : access = .program ∧ busAddress address = StatusFlag.compare.register
  · obtain ⟨rfl, register⟩ := register
    refine ⟨.clears .compare, ⟨iff_of_false (fun same => nomatch same) id, fun other => ?_⟩,
      Device.write_clears register byte device⟩
    refine ⟨?_, fun clears => congrArg _ clears.2.1.symm⟩
    intro same
    cases same
    exact ⟨rfl, rfl, register⟩
  · refine exists_quiet_turn id (fun flag clears => ?_) (Device.quiet_write byte ?_ device)
    · obtain ⟨program, rfl, place⟩ := clears
      exact register ⟨program, place⟩
    · exact fun program place => register ⟨program, place⟩

theorem exists_turn (event : TimerEvent) (device : Device) :
    ∃ turn, event.Makes turn ∧ (event.run device).flags = turn.apply device.flags := by
  cases event with
  | pass cycles =>
    exact ⟨_, .raises id (fun _ => id) _, Device.charge_flags cycles device⟩
  | drive level =>
    obtain ⟨more, flags⟩ := Device.setCaptureLine_flags level device
    exact ⟨_, .raises id (fun _ => id) more, flags⟩
  | read address access => exact exists_turn_read address access device
  | write address byte access => exact exists_turn_write address byte access device

/-! ## One event -/

theorem within_run (within : HasOnly device.flags.status device.flags.seen) :
    HasOnly (event.run device).flags.status (event.run device).flags.seen := by
  obtain ⟨turn, -, flags⟩ := event.exists_turn device
  rw [flags]
  exact FlagTurn.within_apply within turn

theorem run_shows (shows : event.Shows) (device : Device) :
    (event.run device).flags = FlagTurn.shows.apply device.flags := by
  obtain ⟨turn, makes, flags⟩ := event.exists_turn device
  rw [flags, makes.shows.mpr shows]

theorem run_clears (clears : event.Clears flag) (device : Device) :
    ¬ flag.In (event.run device).flags.seen ∧
      (flag.In (event.run device).flags.status ↔
        flag.In device.flags.status ∧ ¬ flag.In device.flags.seen) := by
  obtain ⟨turn, makes, flags⟩ := event.exists_turn device
  rw [flags, (makes.clears flag).mpr clears]
  exact FlagTurn.apply_clears flag device.flags

theorem run_other (hides : ¬ event.Shows) (keeps : ¬ event.Clears flag) (device : Device) :
    (flag.In (event.run device).flags.seen ↔ flag.In device.flags.seen) ∧
      (flag.In device.flags.status → flag.In (event.run device).flags.status) := by
  obtain ⟨turn, makes, flags⟩ := event.exists_turn device
  rw [flags]
  exact FlagTurn.apply_other (mt makes.shows.mp hides) (mt (makes.clears flag).mp keeps)

/-- A flag goes from set to clear exactly at an access that clears it when it has been shown. -/
theorem drops_iff (within : HasOnly device.flags.status device.flags.seen) :
    event.Drops flag device ↔ event.Clears flag ∧ flag.In device.flags.seen := by
  by_cases clears : event.Clears flag
  · obtain ⟨-, kept⟩ := run_clears clears device
    refine ⟨fun ⟨up, down⟩ => ⟨clears, ?_⟩, fun ⟨_, seen⟩ => ⟨seen.of_hasOnly within, ?_⟩⟩
    · exact Decidable.not_not.mp fun unseen => down (kept.mpr ⟨up, unseen⟩)
    · exact fun up => (kept.mp up).2 seen
  · refine iff_of_false (fun ⟨up, down⟩ => down ?_) fun both => clears both.1
    by_cases shows : event.Shows
    · have status := congrArg StatusFlags.status (run_shows shows device)
      change flag.In (event.run device).flags.status
      rw [status]
      exact up
    · exact (run_other shows clears device).2 up

/-! ## The past of a flag -/

/-- The latest status read has shown the flag, and the flag has not been cleared since. -/
def Shown (flag : StatusFlag) (start : Device) (past : List TimerEvent) : Prop :=
  ∃ earlier address later, past = earlier ++ read address .program :: later ∧
    busAddress address = 0x0013 ∧
    flag.In (Device.read address .program (after earlier start)).1 ∧
    (∀ event ∈ later, ¬ event.Shows) ∧
    ∀ between event rest, later = between ++ event :: rest →
      ¬ event.Drops flag (after (earlier ++ read address .program :: between) start)

theorem not_shown_nil : ¬ Shown flag start [] := by
  rintro ⟨earlier, address, later, split, -⟩
  exact List.append_ne_nil_of_right_ne_nil earlier (List.cons_ne_nil _ later) split.symm

/-- After a status read, just the flags that are up have been shown. -/
theorem shown_concat_shows (shows : event.Shows) :
    Shown flag start (past ++ [event]) ↔ flag.In (after past start).flags.status := by
  constructor
  · rintro ⟨earlier, address, later, split, status, up, hides, -⟩
    rcases concat_eq_split split with ⟨rfl, -⟩ | ⟨between, -, rfl⟩
    · rw [(Device.read_shows status _).1] at up
      exact up
    · exact absurd shows (hides event (List.mem_append_right _ List.mem_cons_self))
  · intro up
    cases event with
    | read address access =>
      obtain ⟨rfl, status⟩ := shows
      refine ⟨past, address, [], rfl, status, ?_, fun event member => (nomatch member), ?_⟩
      · rw [(Device.read_shows status _).1]
        exact up
      · intro between event rest split
        exact absurd split.symm (List.append_ne_nil_of_right_ne_nil _ (List.cons_ne_nil _ _))
    | _ => cases shows

/-- After any other event, a flag has been shown if it had been before and is not cleared now. -/
theorem shown_concat_hides (hides : ¬ event.Shows) :
    Shown flag start (past ++ [event]) ↔
      Shown flag start past ∧ ¬ event.Drops flag (after past start) := by
  constructor
  · rintro ⟨earlier, address, later, split, status, up, quiet, kept⟩
    rcases concat_eq_split split with ⟨-, rfl, -⟩ | ⟨between, rfl, rfl⟩
    · exact absurd ⟨rfl, status⟩ hides
    · refine ⟨⟨earlier, address, between, rfl, status, up, ?_, ?_⟩, kept between event [] rfl⟩
      · exact fun event member => quiet event (List.mem_append_left _ member)
      · rintro before dropped rest rfl
        exact kept before dropped (rest ++ [event]) (by simp)
  · rintro ⟨⟨earlier, address, later, rfl, status, up, quiet, kept⟩, stays⟩
    refine ⟨earlier, address, later ++ [event], by simp, status, up, ?_, ?_⟩
    · intro event member
      rcases List.mem_append.mp member with before | now
      · exact quiet event before
      · rw [List.mem_singleton.mp now]
        exact hides
    · intro between last rest split
      rcases concat_eq_split split with ⟨rfl, rfl, -⟩ | ⟨rest, same, -⟩
      · exact stays
      · exact kept between last rest same

theorem within_after (within : HasOnly start.flags.status start.flags.seen)
    (past : List TimerEvent) :
    HasOnly (after past start).flags.status (after past start).flags.seen := by
  induction past using List.reverseRecOn with
  | nil => exact within
  | append_singleton past event ih =>
    rw [after_concat]
    exact within_run ih

/-- The seen flags sum up the past of each flag. -/
theorem seen_iff_shown (unseen : start.flags.seen = 0) :
    flag.In (after past start).flags.seen ↔ Shown flag start past := by
  have within : HasOnly start.flags.status start.flags.seen := by
    rw [unseen]
    exact .zero8 _
  induction past using List.reverseRecOn with
  | nil =>
    refine iff_of_false ?_ not_shown_nil
    change ¬ flag.In start.flags.seen
    rw [unseen]
    exact flag.not_in_zero
  | append_singleton past event ih =>
    have before := within_after within past
    rw [after_concat]
    by_cases shows : event.Shows
    · rw [run_shows shows, shown_concat_shows shows]
      rfl
    · have summed : flag.In (after past start).flags.seen ↔ Shown flag start past := ih
      rw [shown_concat_hides shows, drops_iff before, ← summed]
      by_cases clears : event.Clears flag
      · have unshown := (run_clears clears (after past start)).1
        exact iff_of_false unshown fun both => both.2 ⟨clears, both.1⟩
      · rw [(run_other shows clears _).1]
        exact ⟨fun seen => ⟨seen, fun both => clears both.1⟩, And.left⟩

/-- A flag that is up and has not been shown stays up until the next status read. -/
theorem unseen_kept (up : flag.In device.flags.status) (unseen : ¬ flag.In device.flags.seen)
    (hides : ∀ event ∈ events, ¬ event.Shows) :
    flag.In (after events device).flags.status := by
  induction events generalizing device with
  | nil => exact up
  | cons event events ih =>
    obtain ⟨first, later⟩ := List.forall_mem_cons.mp hides
    change flag.In (after events (event.run device)).flags.status
    by_cases clears : event.Clears flag
    · obtain ⟨hidden, kept⟩ := run_clears clears device
      exact ih (kept.mpr ⟨up, unseen⟩) hidden later
    · obtain ⟨seen, stays⟩ := run_other first clears device
      exact ih (stays up) (mt seen.mp unseen) later

/-- A flag that rises has not been shown. -/
theorem unseen_of_rise (within : HasOnly device.flags.status device.flags.seen)
    (down : ¬ flag.In device.flags.status) (up : flag.In (event.run device).flags.status) :
    ¬ flag.In (event.run device).flags.seen := by
  have unseen : ¬ flag.In device.flags.seen := fun seen => down (seen.of_hasOnly within)
  by_cases shows : event.Shows
  · rw [run_shows shows] at up
    exact absurd up down
  · by_cases clears : event.Clears flag
    · exact (run_clears clears device).1
    · exact mt (run_other shows clears device).1.mp unseen

theorem ByDebugger.keeps (debugger : event.ByDebugger) : ¬ event.Clears flag := by
  intro clears
  cases event with
  | read address access => exact absurd (debugger.symm.trans clears.1) (by decide)
  | write address byte access => exact absurd (debugger.symm.trans clears.1) (by decide)
  | _ => exact clears

/-! ## The protocol -/

/-- The status flags follow their protocol. From a reset on, whatever happens:

* only flags that are up have been shown;
* a flag goes from set to clear exactly at an access that clears it, if the latest status read has
  shown it and it has not been cleared since;
* a debugger clears no flag;
* a flag that rises after the last status read is still up. -/
theorem status_flags_by_protocol (device : Device) (past : List TimerEvent) :
    let start := (Device.reset device).2
    let present := after past start
    present.timer.seen &&& present.timer.status = present.timer.seen ∧
      (∀ (flag : StatusFlag) (event : TimerEvent),
        event.Drops flag present ↔ event.Clears flag ∧ Shown flag start past) ∧
      (∀ (flag : StatusFlag) (event : TimerEvent),
        event.ByDebugger → ¬ event.Drops flag present) ∧
      ∀ (flag : StatusFlag) (earlier later : List TimerEvent) (rise : TimerEvent),
        past = earlier ++ rise :: later → (∀ event ∈ later, ¬ event.Shows) →
        ¬ flag.In (after earlier start).timer.status →
        flag.In (after (earlier ++ [rise]) start).timer.status →
        flag.In present.timer.status := by
  intro start present
  have unseen : start.flags.seen = 0 := congrArg StatusFlags.seen device.reset_flags
  have begun : HasOnly start.flags.status start.flags.seen := by
    rw [unseen]
    exact .zero8 _
  have within : HasOnly present.flags.status present.flags.seen := within_after begun past
  refine ⟨within, fun flag event => ?_, fun flag event debugger drops => ?_, ?_⟩
  · rw [drops_iff within, seen_iff_shown unseen]
  · exact debugger.keeps ((drops_iff within).mp drops).1
  · rintro flag earlier later rise rfl hides down up
    have ends : present = after later (after (earlier ++ [rise]) start) := by
      rw [← after_append, List.append_assoc]
      rfl
    have before : HasOnly (after earlier start).flags.status (after earlier start).flags.seen :=
      within_after begun earlier
    rw [after_concat] at up ends
    rw [ends]
    exact unseen_kept up (unseen_of_rise before down up) hides

/-- An edge is captured. A read of the capture register clears the flag if a status read has shown
it, and otherwise the flag stays up. -/
theorem status_flags_by_protocol_at_capture :
    let start := (Device.reset (.new .c4 4000000)).2
    let captured := [.write 0x0012 0x02 .program, .drive true]
    (read 0x0015 .program).Drops .capture
        (after (captured ++ [.read 0x0013 .program]) start) ∧
      StatusFlag.capture.In
        (after (captured ++ [.read 0x0015 .program]) start).timer.status := by
  intro start captured
  constructor
  · have shown : StatusFlag.capture.In
        (Device.read 0x0013 .program (after captured start)).1 := by
      decide +kernel
    have protocol := status_flags_by_protocol (.new .c4 4000000)
      (captured ++ [.read 0x0013 .program])
    refine (protocol.2.1 .capture (.read 0x0015 .program)).mpr ⟨⟨rfl, rfl⟩, ?_⟩
    refine ⟨captured, 0x0013, [], rfl, rfl, shown, fun event member => (nomatch member), ?_⟩
    intro between event rest split
    exact absurd split.symm (List.append_ne_nil_of_right_ne_nil _ (List.cons_ne_nil _ _))
  · have protocol := status_flags_by_protocol (.new .c4 4000000)
      (captured ++ [.read 0x0015 .program])
    have hides : ∀ event ∈ [TimerEvent.read 0x0015 .program], ¬ event.Shows := by
      intro event member shows
      cases List.mem_singleton.mp member
      exact absurd shows.2 (by decide)
    refine protocol.2.2.2 .capture [.write 0x0012 0x02 .program] [.read 0x0015 .program]
      (.drive true) rfl hides ?_ ?_
    · decide +kernel
    · decide +kernel

end TimerEvent
end M68HC05
