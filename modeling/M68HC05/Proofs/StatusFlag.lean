import M68HC05.Proofs.Reset
import M68HC05.Proofs.TimerRegister

/-!
What an access does to the status flags of the timer. Status register and seen flags change in
three ways only (`FlagTurn`): all flags are shown, one is cleared if it has been shown, or some
rise. Program reads of the status register make the first kind of turn, an access to the register of
a flag the second (`StatusFlag.register`), time and the capture pin the third, and every other
access leaves the flags alone (`Device.quiet_read`, `Device.quiet_write`).
-/

namespace M68HC05

open M68HC05.Action

/-! ## Flags -/

/-- The status flags of the timer. -/
inductive StatusFlag where
  | capture
  | compare
  | rollover
  deriving DecidableEq

namespace StatusFlag

/-- The bit of a flag in the status register. -/
def bit : StatusFlag → UInt8
  | capture => Timer.captureFlag
  | compare => Timer.compareFlag
  | rollover => Timer.rolloverFlag

/-- The low half of the register pair that goes with a flag, where the flag is cleared. -/
def register : StatusFlag → UInt16
  | capture => 0x0015
  | compare => 0x0017
  | rollover => 0x0019

/-- The register of the timer that it is. -/
def lowHalf : StatusFlag → TimerRegister
  | capture => .capture .low
  | compare => .compare .low
  | rollover => .counter .normal .low

/-- A byte has the flag set. -/
def In (flag : StatusFlag) (byte : UInt8) : Prop :=
  byte &&& flag.bit ≠ 0

instance (flag : StatusFlag) (byte : UInt8) : Decidable (flag.In byte) :=
  inferInstanceAs (Decidable (byte &&& flag.bit ≠ 0))

variable {flag other : StatusFlag} {byte mask : UInt8}

theorem register_eq (flag : StatusFlag) : flag.register = flag.lowHalf.address := by
  cases flag with
  | _ => rfl

theorem register_injective (same : flag.register = other.register) :
    flag = other := by
  revert same
  cases flag with
  | _ =>
    cases other with
    | _ => decide

theorem register_ne_status (flag : StatusFlag) : flag.register ≠ 0x0013 := by
  cases flag with
  | _ => decide

theorem not_in_zero (flag : StatusFlag) : ¬ flag.In 0 := by
  unfold In
  rw [UInt8.zero_and]
  exact not_not_intro rfl

theorem In.or (up : flag.In byte) (more : UInt8) : flag.In (byte ||| more) := by
  intro none
  rw [or_and_right8, UInt8.or_eq_zero_iff] at none
  exact up none.1

theorem In.of_hasOnly (up : flag.In byte) (within : HasOnly mask byte) : flag.In mask := by
  intro none
  unfold In at up
  rw [← within, UInt8.and_assoc, none, UInt8.and_zero] at up
  exact up rfl

theorem not_in_cleared (flag : StatusFlag) (byte : UInt8) :
    ¬ flag.In (byte &&& ~~~flag.bit) := by
  unfold In
  rw [UInt8.and_assoc, UInt8.not_and_self, UInt8.and_zero]
  exact not_not_intro rfl

theorem bit_apart (ne : flag ≠ other) : ~~~other.bit &&& flag.bit = flag.bit := by
  revert ne
  cases flag with
  | _ =>
    cases other with
    | _ => decide

theorem in_cleared_iff (ne : flag ≠ other) : flag.In (byte &&& ~~~other.bit) ↔ flag.In byte := by
  unfold In
  rw [UInt8.and_assoc, bit_apart ne]

end StatusFlag

/-! ## Turns of the flags -/

/-- The status flags of a timer: those that are up, and those that a status read has shown. -/
structure StatusFlags where
  status : UInt8
  seen : UInt8

/-- What may happen to the flags. -/
inductive FlagTurn where
  /-- all flags that are up are shown -/
  | shows
  /-- a flag is cleared, if it has been shown -/
  | clears (flag : StatusFlag)
  | raises (more : UInt8)

namespace FlagTurn

/-- The flags after a turn. -/
def apply : FlagTurn → StatusFlags → StatusFlags
  | shows, flags => { flags with seen := flags.status }
  | clears flag, flags =>
    if flag.In flags.seen then ⟨flags.status &&& ~~~flag.bit, flags.seen &&& ~~~flag.bit⟩
    else flags
  | raises more, flags => { flags with status := flags.status ||| more }

variable {flag : StatusFlag} {flags : StatusFlags}

theorem apply_raises_zero (flags : StatusFlags) : (raises 0).apply flags = flags := by
  dsimp only [apply]
  rw [UInt8.or_zero]

/-- Only flags that are up have been shown. -/
theorem within_apply (within : HasOnly flags.status flags.seen) (turn : FlagTurn) :
    HasOnly (turn.apply flags).status (turn.apply flags).seen := by
  cases turn with
  | shows => exact UInt8.and_self
  | clears flag =>
    dsimp only [apply]
    split
    · exact within.cut_both8 _
    · exact within
  | raises more => exact within.widen8 more

/-- A turn that clears a flag does so exactly if the flag has been shown. -/
theorem apply_clears (flag : StatusFlag) (flags : StatusFlags) :
    ¬ flag.In ((clears flag).apply flags).seen ∧
      (flag.In ((clears flag).apply flags).status ↔
        flag.In flags.status ∧ ¬ flag.In flags.seen) := by
  dsimp only [apply]
  split
  · rename_i shown
    refine ⟨flag.not_in_cleared flags.seen, fun up => ?_, fun kept => ?_⟩
    · exact absurd up (flag.not_in_cleared flags.status)
    · exact absurd shown kept.2
  · rename_i unseen
    exact ⟨unseen, fun up => ⟨up, unseen⟩, And.left⟩

theorem of_apply_clears {other : StatusFlag}
    (up : flag.In ((clears other).apply flags).status) : flag.In flags.status := by
  dsimp only [apply] at up
  split at up
  · exact up.of_hasOnly (HasOnly.and_left UInt8.and_self _)
  · exact up

/-- Any other turn that does not show the flags may raise a flag, and leaves alone what has been
shown of it. -/
theorem apply_other {turn : FlagTurn} (hides : turn ≠ shows) (keeps : turn ≠ clears flag) :
    (flag.In (turn.apply flags).seen ↔ flag.In flags.seen) ∧
      (flag.In flags.status → flag.In (turn.apply flags).status) := by
  cases turn with
  | shows => exact absurd rfl hides
  | clears other =>
    have ne : flag ≠ other := fun same => keeps (congrArg clears same.symm)
    dsimp only [apply]
    split
    · exact ⟨StatusFlag.in_cleared_iff ne, (StatusFlag.in_cleared_iff ne).mpr⟩
    · exact ⟨Iff.rfl, id⟩
  | raises more => exact ⟨Iff.rfl, fun up => up.or more⟩

end FlagTurn

/-! ## The timer -/

namespace Timer

/-- The status flags of a timer. -/
def flags (timer : Timer) : StatusFlags :=
  ⟨timer.status, timer.seen⟩

variable (timer : Timer) {register : TimerRegister} {access : Access}

theorem flags_clearFlag (flag : StatusFlag) :
    (timer.clearFlag flag.bit).flags = (FlagTurn.clears flag).apply timer.flags := by
  unfold clearFlag
  rw [FlagTurn.apply]
  split
  · rename_i up
    have shown : flag.In timer.flags.seen := up
    rw [if_pos shown]
    rfl
  · rename_i up
    have unseen : ¬ flag.In timer.flags.seen := up
    rw [if_neg unseen]

theorem flags_setLowByte (channel : Channel) (low : LowByte) :
    (timer.setLowByte channel low).flags = timer.flags := by
  cases channel with
  | normal => rfl
  | alternate => rfl

/-- A program read of the register of a flag clears it, if it has been shown. -/
theorem flags_readAt_lowHalf (flag : StatusFlag) :
    (timer.readAt flag.lowHalf .program).next.flags =
      (FlagTurn.clears flag).apply timer.flags := by
  cases flag with
  | capture => exact timer.flags_clearFlag .capture
  | compare => exact timer.flags_clearFlag .compare
  | rollover =>
    let released := timer.setLowByte .normal { timer.normal with latched := false }
    exact released.flags_clearFlag .rollover

theorem flags_readCounterHigh (channel : Channel) (access : Access) :
    (timer.readCounterHigh channel access).next.flags = timer.flags := by
  unfold readCounterHigh
  dsimp only
  split
  · exact timer.flags_setLowByte channel _
  · rfl

/-- A read of any other register leaves the flags alone, and so does every read of a debugger. -/
theorem flags_readAt (quiet : access = .program →
      register ≠ .status ∧ ∀ flag : StatusFlag, register ≠ flag.lowHalf) :
    (timer.readAt register access).next.flags = timer.flags := by
  cases register with
  | control => rfl
  | status =>
    cases access with
    | program => exact absurd rfl (quiet rfl).1
    | debugger => rfl
  | capture half =>
    cases access with
    | program =>
      cases half with
      | high => rfl
      | low => exact absurd rfl ((quiet rfl).2 .capture)
    | debugger => rfl
  | compare half =>
    cases access with
    | program =>
      cases half with
      | high => rfl
      | low => exact absurd rfl ((quiet rfl).2 .compare)
    | debugger => rfl
  | counter channel half =>
    cases half with
    | high => exact timer.flags_readCounterHigh channel access
    | low =>
      cases access with
      | program =>
        cases channel with
        | normal => exact absurd rfl ((quiet rfl).2 .rollover)
        | alternate => rfl
      | debugger => rfl

/-- A program write to the register of the compare flag clears it, if it has been shown. -/
theorem flags_writeAt_lowHalf (byte : UInt8) :
    (timer.writeAt (.compare .low) byte .program).next.flags =
      (FlagTurn.clears .compare).apply timer.flags :=
  timer.flags_clearFlag .compare

/-- A write to any other register leaves the flags alone, and so does every write of a debugger. -/
theorem flags_writeAt (byte : UInt8)
    (quiet : access = .program → register ≠ StatusFlag.compare.lowHalf) :
    (timer.writeAt register byte access).next.flags = timer.flags := by
  cases register with
  | compare half =>
    cases access with
    | program =>
      cases half with
      | high => rfl
      | low => exact absurd rfl (quiet rfl)
    | debugger => rfl
  | _ => rfl

/-- A read raises no flag. -/
theorem status_readAt (flag : StatusFlag)
    (up : flag.In (timer.readAt register access).next.flags.status) :
    flag.In timer.flags.status := by
  by_cases status : access = .program ∧ register = .status
  · obtain ⟨rfl, rfl⟩ := status
    exact up
  by_cases low : access = .program ∧ ∃ other : StatusFlag, register = other.lowHalf
  · obtain ⟨rfl, other, rfl⟩ := low
    rw [timer.flags_readAt_lowHalf other] at up
    exact FlagTurn.of_apply_clears up
  · rwa [timer.flags_readAt fun program => ⟨fun named => status ⟨program, named⟩,
      fun other named => low ⟨program, other, named⟩⟩] at up

/-- Neither does a write. -/
theorem status_writeAt (flag : StatusFlag) {byte : UInt8}
    (up : flag.In (timer.writeAt register byte access).next.flags.status) :
    flag.In timer.flags.status := by
  by_cases low : access = .program ∧ register = StatusFlag.compare.lowHalf
  · obtain ⟨rfl, rfl⟩ := low
    exact FlagTurn.of_apply_clears (timer.flags_writeAt_lowHalf byte ▸ up)
  · rwa [timer.flags_writeAt byte fun program named => low ⟨program, named⟩] at up

/-- The capture pin may raise a flag. -/
theorem flags_setCaptureLevel (level : Bool) : ∃ more,
    (timer.setCaptureLevel level).next.flags = (FlagTurn.raises more).apply timer.flags := by
  have same := FlagTurn.apply_raises_zero timer.flags
  unfold setCaptureLevel
  dsimp only
  split
  · dsimp only
    split
    · exact ⟨0, same.symm⟩
    · exact ⟨captureFlag, rfl⟩
  · exact ⟨0, same.symm⟩

end Timer

/-! ## Accesses of a device -/

namespace Device

variable {flag : StatusFlag} {address : UInt16} {access : Access}

/-- The status flags of the timer of a device. -/
def flags (device : Device) : StatusFlags :=
  device.timer.flags

/-- A program read of the status register answers the flags that are up, and shows them. -/
theorem read_shows (status : busAddress address = 0x0013) (device : Device) :
    (Device.read address .program device).1 = device.flags.status ∧
      (Device.read address .program device).2.flags = FlagTurn.shows.apply device.flags := by
  have names : busAddress address = TimerRegister.status.address := status
  obtain ⟨answers, shows⟩ := read_at names .program device
  exact ⟨answers, congrArg Timer.flags shows⟩

/-- A program read of the register of a flag clears it, if it has been shown. -/
theorem read_clears (register : busAddress address = flag.register) (device : Device) :
    (Device.read address .program device).2.flags =
      (FlagTurn.clears flag).apply device.flags := by
  rw [flag.register_eq] at register
  exact (congrArg Timer.flags (read_at register .program device).2).trans
    (device.timer.flags_readAt_lowHalf flag)

/-- So does a program write to the compare register. -/
theorem write_clears (register : busAddress address = StatusFlag.compare.register) (byte : UInt8)
    (device : Device) :
    (Device.write address byte .program device).2.flags =
      (FlagTurn.clears .compare).apply device.flags := by
  rw [StatusFlag.register_eq] at register
  exact (congrArg Timer.flags (timer_write_at register byte .program device)).trans
    (device.timer.flags_writeAt_lowHalf byte)

theorem quiet_read (quiet : access = .program →
      busAddress address ≠ 0x0013 ∧ ∀ flag : StatusFlag, busAddress address ≠ flag.register) :
    Moves (Same flags) (Device.read address access) := by
  intro device
  by_cases named : ∃ register : TimerRegister, busAddress address = register.address
  · obtain ⟨register, names⟩ := named
    refine (congrArg Timer.flags (read_at names access device).2).trans
      (device.timer.flags_readAt fun program => ⟨?_, ?_⟩)
    · rintro rfl
      exact (quiet program).1 names
    · rintro flag rfl
      exact (quiet program).2 flag (names.trans flag.register_eq.symm)
  · exact congrArg Timer.flags (read_elsewhere (not_exists.mp named) device)

theorem quiet_write (byte : UInt8)
    (quiet : access = .program → busAddress address ≠ StatusFlag.compare.register) :
    Moves (Same flags) (Device.write address byte access) := by
  intro device
  by_cases named : ∃ register : TimerRegister, busAddress address = register.address
  · obtain ⟨register, names⟩ := named
    refine (congrArg Timer.flags (timer_write_at names byte access device)).trans
      (device.timer.flags_writeAt byte fun program => ?_)
    rintro rfl
    exact quiet program (names.trans (StatusFlag.register_eq .compare).symm)
  · exact congrArg Timer.flags (timer_write_elsewhere (not_exists.mp named) byte device)

/-- Time may raise flags. -/
theorem charge_flags (cycles : Nat) (device : Device) :
    (charge cycles device).2.flags =
      (FlagTurn.raises (device.timer.raised cycles)).apply device.flags := by
  unfold flags
  rw [charge_timer]
  rfl

/-- A reset keeps the flags, and none of them has been shown after it. -/
theorem reset_flags (device : Device) : (reset device).2.flags = ⟨device.flags.status, 0⟩ := by
  obtain ⟨watches, bench, same⟩ := device.reset_apply
  rw [same]
  rfl

theorem setCaptureLine_flags (level : Bool) (device : Device) : ∃ more,
    (setCaptureLine level device).2.flags = (FlagTurn.raises more).apply device.flags :=
  device.timer.flags_setCaptureLevel level

end Device
end M68HC05