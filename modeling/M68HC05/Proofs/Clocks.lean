import Mathlib.Algebra.GroupWithZero.Nat
import M68HC05.Proofs.StepEvents
import M68HC05.Proofs.WatchdogEvents
import M68HC05.Proofs.WellFormed

/-!
The clocks of a device: the cycle counter, the timer with its prescaler, and the counters of the two
watchdogs. They have different widths and start again at different events, but all of them are
charged the same cycles. So each of them can be read off the history of a device: it tells the
cycles that have been charged since the last event at which it starts again (`Tells`). While the
processor is stopped the cycle counter runs alone.

The main statement is `clocks_agree`: from power-on, whatever a board does and whatever the program
on the device does, no cycle is lost to one of the clocks or counted by it twice.
-/

namespace M68HC05

open M68HC05.Action Device

/-! ## Cycles in a history -/

namespace DeviceEvent

/-- The cycles that pass in an event. -/
def cycles : DeviceEvent → Nat
  | charged cycles => cycles
  | idled cycles => cycles
  | _ => 0

/-- The cycles of an event that are charged to the timer and the watchdogs. -/
def clockCycles : DeviceEvent → Nat
  | charged cycles => cycles
  | _ => 0

/-- The byte that an event writes to an address, if it does. -/
def written? (address : UInt16) : DeviceEvent → Option UInt8
  | access made =>
    if made.made = .write ∧ made.address = address then some made.byte else none
  | _ => none

end DeviceEvent

/-- The cycles that pass in some events. -/
def elapsed (events : List DeviceEvent) : Nat :=
  (events.map DeviceEvent.cycles).sum

/-- The cycles of some events that are charged to the timer and the watchdogs. -/
def clocked (events : List DeviceEvent) : Nat :=
  (events.map DeviceEvent.clockCycles).sum

/-- The cycles that have been charged since the last event at which a clock starts again. The
history has the latest event first. Whether an event is such a one may depend on what was before. -/
def clockedSince (restarts : DeviceEvent → List DeviceEvent → Bool) : List DeviceEvent → Nat
  | [] => 0
  | event :: past =>
    if restarts event past then 0 else event.clockCycles + clockedSince restarts past

/-- The key register of the programmable watchdog. -/
def keyAddress : UInt16 := 0x001D

/-- The clear register of the non-programmable watchdog. -/
def clearAddress : UInt16 := 0x1FF0

/-- The byte last written to the key register, which is zero when power is applied. -/
def lastKey : List DeviceEvent → UInt8
  | [] => 0
  | event :: past =>
    if event = .power then 0 else (event.written? keyAddress).getD (lastKey past)

/-- The timer starts again at a reset. -/
def restartsTimer (event : DeviceEvent) (_ : List DeviceEvent) : Bool :=
  event = .reset

/-- The programmable watchdog starts again when power is applied, and when 0xAA is written to its
key register and the byte written to it before was 0x55. -/
def restartsProgrammable (event : DeviceEvent) (past : List DeviceEvent) : Bool :=
  event = .power || event.written? keyAddress = some 0xAA && lastKey past = 0x55

/-- The non-programmable watchdog starts again at a reset, and when a byte with a clear lowest bit
is written to its clear register. -/
def restartsFixed (event : DeviceEvent) (_ : List DeviceEvent) : Bool :=
  event = .reset || (event.written? clearAddress).any (· % 2 = 0)

variable {event : DeviceEvent} {history past : List DeviceEvent}
  {restarts : DeviceEvent → List DeviceEvent → Bool}

theorem clockedSince_of_restart (again : restarts event past = true) :
    clockedSince restarts (event :: past) = 0 := by
  rw [clockedSince, if_pos again]

theorem clockedSince_of_not (goes : restarts event past = false) :
    clockedSince restarts (event :: past) = event.clockCycles + clockedSince restarts past := by
  rw [clockedSince, if_neg (Bool.eq_false_iff.mp goes)]

theorem clockedSince_of_free (goes : restarts event past = false) (free : event.clockCycles = 0) :
    clockedSince restarts (event :: past) = clockedSince restarts past := by
  rw [clockedSince_of_not goes, free, Nat.zero_add]

theorem lastKey_of_written {byte : UInt8} (power : event ≠ .power)
    (written : event.written? keyAddress = some byte) : lastKey (event :: past) = byte := by
  rw [lastKey, if_neg power, written]
  rfl

theorem lastKey_of_unwritten (power : event ≠ .power)
    (unwritten : event.written? keyAddress = none) : lastKey (event :: past) = lastKey past := by
  rw [lastKey, if_neg power, unwritten]
  rfl

theorem restartsProgrammable_of_written {byte : UInt8} (power : event ≠ .power)
    (written : event.written? keyAddress = some byte) (past : List DeviceEvent) :
    restartsProgrammable event past = (byte = 0xAA && lastKey past = 0x55) := by
  simp [restartsProgrammable, power, written]

theorem restartsProgrammable_of_unwritten (power : event ≠ .power)
    (unwritten : event.written? keyAddress = none) (past : List DeviceEvent) :
    restartsProgrammable event past = false := by
  simp [restartsProgrammable, power, unwritten]

theorem restartsFixed_of_written {byte : UInt8} (reset : event ≠ .reset)
    (written : event.written? clearAddress = some byte) (past : List DeviceEvent) :
    restartsFixed event past = (byte % 2 = 0 : Bool) := by
  simp [restartsFixed, reset, written]

theorem restartsFixed_of_unwritten (reset : event ≠ .reset)
    (unwritten : event.written? clearAddress = none) (past : List DeviceEvent) :
    restartsFixed event past = false := by
  simp [restartsFixed, reset, unwritten]

theorem DeviceEvent.written?_write (place address : UInt16) (byte : UInt8) :
    (DeviceEvent.access (.write address byte)).written? place =
      if busAddress address = place then some byte else none := by
  change (if WatchKind.write = .write ∧ busAddress address = place then some byte else none) = _
  simp only [true_and]

/-! ## Clocks -/

/-- The registers of the watchdogs but for the control register, which is no clock. -/
def Watchdog.counters (watchdog : Watchdog) : Watchdog :=
  { watchdog with control := 0 }

/-- A byte with a clear lowest bit starts the non-programmable watchdog again. -/
theorem Watchdog.next_writeClear (watchdog : Watchdog) (byte : UInt8) :
    (watchdog.writeClear byte).next = { watchdog with
      fixedCount := if byte % 2 = 0 then 0 else watchdog.fixedCount } := by
  unfold writeClear
  dsimp only
  split
  · rfl
  · rfl

/-- The clocks of a device, the cycle counter apart, with what starts them again. -/
structure Clocks where
  variant : Variant
  prescaler : UInt8
  counter : UInt16
  watchdog : Watchdog

/-- The clocks of a device. -/
def Device.clocks (device : Device) : Clocks where
  variant := device.variant
  prescaler := device.timer.prescaler
  counter := device.timer.counter
  watchdog := device.watchdog.counters

/-- Clocks tell of a history what it has charged to them, as far as they go. -/
structure Tells (history : List DeviceEvent) (clocks : Clocks) : Prop where
  prescaler : clocks.prescaler.toNat < 16
  timer : 16 * clocks.counter.toNat + clocks.prescaler.toNat =
    (16 * 0xFFFC + clockedSince restartsTimer history) % 2 ^ 20
  key : clocks.variant.hasProgrammableWatchdog = true → clocks.watchdog.key = lastKey history
  programmable : clocks.variant.hasProgrammableWatchdog = true →
    clocks.watchdog.programmableCount.toNat % 2 ^ 15 =
      clockedSince restartsProgrammable history % 2 ^ 15
  fixed : clocks.watchdog.fixedEnabled = true → clocks.variant.hasFixedWatchdog = true ∧
    clocks.watchdog.fixedCount.toNat = clockedSince restartsFixed history % 2 ^ 17

namespace Tells

variable {clocks : Clocks}

/-- An event that charges nothing and starts no clock again may pass. -/
theorem pass (tells : Tells history clocks) (free : event.clockCycles = 0)
    (power : event ≠ .power) (reset : event ≠ .reset)
    (key : clocks.variant.hasProgrammableWatchdog = true → event.written? keyAddress = none)
    (clear : clocks.variant.hasFixedWatchdog = true → event.written? clearAddress = none) :
    Tells (event :: history) clocks where
  prescaler := tells.prescaler
  timer := by
    rw [clockedSince_of_free (decide_eq_false reset) free]
    exact tells.timer
  key fitted := by
    rw [lastKey_of_unwritten power (key fitted)]
    exact tells.key fitted
  programmable fitted := by
    rw [clockedSince_of_free (restartsProgrammable_of_unwritten power (key fitted) _) free]
    exact tells.programmable fitted
  fixed enabled := by
    obtain ⟨fitted, count⟩ := tells.fixed enabled
    rw [clockedSince_of_free (restartsFixed_of_unwritten reset (clear fitted) _) free]
    exact ⟨fitted, count⟩

end Tells

/-- The clocks when cycles are charged to them. -/
def Clocks.advance (clocks : Clocks) (cycles : Nat) : Clocks :=
  { clocks with
    prescaler := UInt8.ofNat ((cycles + clocks.prescaler.toNat % 16) % 16)
    counter := UInt16.ofNat
      (clocks.counter.toNat + (cycles + clocks.prescaler.toNat % 16) / 16)
    watchdog := (clocks.watchdog.advance clocks.variant.watchdogs cycles).next.counters }

/-- The clocks when a byte is written to the key register. -/
def Clocks.keyed (clocks : Clocks) (byte : UInt8) : Clocks :=
  { clocks with watchdog := (clocks.watchdog.writeKey byte).next }

/-- The clocks when a byte is written to the clear register. -/
def Clocks.cleared (clocks : Clocks) (byte : UInt8) : Clocks :=
  { clocks with watchdog := (clocks.watchdog.writeClear byte).next }

theorem Device.clocks_charge (cycles : Nat) (device : Device) :
    (charge cycles device).2.clocks = device.clocks.advance cycles := by
  unfold charge
  simp only [bind_apply, get_apply, Action.ite_apply]
  split
  · rfl
  · rfl

namespace Clocks

variable (clocks : Clocks)

theorem prescaler_advance (small : clocks.prescaler.toNat < 16) (cycles : Nat) :
    (clocks.advance cycles).prescaler.toNat = (cycles + clocks.prescaler.toNat) % 16 := by
  change (UInt8.ofNat ((cycles + clocks.prescaler.toNat % 16) % 16)).toNat = _
  rw [UInt8.toNat_ofNat', Nat.mod_eq_of_lt small]
  omega

theorem counter_advance (small : clocks.prescaler.toNat < 16) (cycles : Nat) :
    (clocks.advance cycles).counter.toNat =
      (clocks.counter.toNat + (cycles + clocks.prescaler.toNat) / 16) % 2 ^ 16 := by
  change (UInt16.ofNat (clocks.counter.toNat +
    (cycles + clocks.prescaler.toNat % 16) / 16)).toNat = _
  rw [UInt16.toNat_ofNat', Nat.mod_eq_of_lt small]

theorem cleared_eq (byte : UInt8) : clocks.cleared byte = { clocks with
    watchdog := { clocks.watchdog with
      fixedCount := if byte % 2 = 0 then 0 else clocks.watchdog.fixedCount } } := by
  unfold cleared
  rw [Watchdog.next_writeClear]

end Clocks

/-- All clocks count the cycles that are charged. -/
theorem Tells.advance {clocks : Clocks} (tells : Tells history clocks) (cycles : Nat) :
    Tells (.charged cycles :: history) (clocks.advance cycles) where
  prescaler := by
    rw [clocks.prescaler_advance tells.prescaler]
    exact Nat.mod_lt _ (by decide)
  timer := by
    have timer := tells.timer
    rw [clocks.prescaler_advance tells.prescaler, clocks.counter_advance tells.prescaler,
      clockedSince_of_not rfl, DeviceEvent.clockCycles]
    omega
  key := tells.key
  programmable fitted := by
    have count := tells.programmable fitted
    have counted : (clocks.advance cycles).watchdog.programmableCount.toNat = _ :=
      Watchdog.programmableCount_advance fitted cycles
    rw [counted, clockedSince_of_not rfl, DeviceEvent.clockCycles, Watchdog.programmableRange]
    omega
  fixed enabled := by
    obtain ⟨fitted, count⟩ := tells.fixed enabled
    refine ⟨fitted, ?_⟩
    have counts : (clocks.variant.watchdogs.fixed && clocks.watchdog.fixedEnabled) = true :=
      Bool.and_eq_true_iff.mpr ⟨fitted, enabled⟩
    have counted : (clocks.advance cycles).watchdog.fixedCount.toNat = _ :=
      Watchdog.fixedCount_advance counts cycles
    rw [counted, clockedSince_of_not rfl, DeviceEvent.clockCycles, Watchdog.fixedRange]
    omega

/-! ## Accesses -/

/-- What a timer counts with. -/
def Timer.count (timer : Timer) : UInt8 × UInt16 :=
  (timer.prescaler, timer.counter)

namespace Timer

variable (timer : Timer)

theorem count_clearFlag (flag : UInt8) : (timer.clearFlag flag).count = timer.count := by
  unfold clearFlag
  split
  · rfl
  · rfl

theorem count_setLowByte (channel : Channel) (low : LowByte) :
    (timer.setLowByte channel low).count = timer.count := by
  cases channel with
  | _ => rfl

theorem count_readStatus (access : Access) :
    (timer.readStatus access).next.count = timer.count := by
  cases access with
  | _ => rfl

theorem count_readCapture (half : Half) (access : Access) :
    (timer.readCapture half access).next.count = timer.count := by
  cases access with
  | debugger => rfl
  | program =>
    cases half with
    | high => rfl
    | low => exact timer.count_clearFlag captureFlag

theorem count_setCaptureLevel (level : Bool) :
    (timer.setCaptureLevel level).next.count = timer.count := by
  unfold setCaptureLevel
  dsimp only
  split
  · dsimp only
    split
    · rfl
    · rfl
  · rfl

theorem count_readCompare (half : Half) (access : Access) :
    (timer.readCompare half access).next.count = timer.count := by
  cases access with
  | debugger => rfl
  | program =>
    cases half with
    | high => rfl
    | low => exact timer.count_clearFlag compareFlag

theorem count_writeCompare (half : Half) (data : UInt8) :
    (timer.writeCompare half data .program).next.count = timer.count := by
  cases half with
  | high => rfl
  | low => exact timer.count_clearFlag compareFlag

theorem count_readCounter (offset : UInt16) (access : Access) :
    (timer.readCounter offset access).next.count = timer.count := by
  unfold readCounter
  dsimp only
  generalize (if offset / 2 % 2 = 0 then Channel.normal else Channel.alternate) = channel
  cases Half.ofOffset offset with
  | high =>
    dsimp only [readCounterHigh]
    split
    · exact timer.count_setLowByte channel _
    · rfl
  | low =>
    cases access with
    | debugger => rfl
    | program =>
      cases channel with
      | normal => exact (timer.setLowByte .normal _).count_clearFlag rolloverFlag
      | alternate => rfl

end Timer

/-- The key register is where the programmable watchdog is served, on parts that have it. -/
theorem Variant.writer_key {variant : Variant} (fitted : variant.hasProgrammableWatchdog = true) :
    variant.addressMap.writer? keyAddress = some (.watchdogKey, 0) := by
  cases variant with
  | c8a => rfl
  | _ => cases fitted

theorem Variant.writer_clear {variant : Variant} (fitted : variant.hasFixedWatchdog = true) :
    variant.addressMap.writer? clearAddress = some (.watchdogClear, 0) := by
  cases variant with
  | c8a => rfl
  | _ => cases fitted

theorem Variant.key_of_writer {variant : Variant} {address offset : UInt16}
    (goes : variant.addressMap.writer? address = some (.watchdogKey, offset)) :
    address = keyAddress := by
  refine AddressMap.eq_of_writer? goes ?_
  cases variant with
  | _ => decide

theorem Variant.clear_of_writer {variant : Variant} {address offset : UInt16}
    (goes : variant.addressMap.writer? address = some (.watchdogClear, offset)) :
    address = clearAddress := by
  refine AddressMap.eq_of_writer? goes ?_
  cases variant with
  | _ => decide

namespace Device

theorem clocks_onTimer {α : Type} {operation : Timer → Outcome Timer α}
    (steady : ∀ timer, (operation timer).next.count = timer.count) :
    Moves (Same clocks) (onTimer operation) := by
  intro device
  obtain ⟨prescaler, counter⟩ := Prod.mk.inj (steady device.timer)
  change { device.clocks with
    prescaler := (operation device.timer).next.prescaler
    counter := (operation device.timer).next.counter } = device.clocks
  rw [prescaler, counter]
  rfl

theorem clocks_writeClear (byte : UInt8) (device : Device) :
    (onWatchdog (·.writeClear byte) device).2.clocks = device.clocks.cleared byte := by
  change { device.clocks with watchdog := (device.watchdog.writeClear byte).next.counters } = _
  rw [Clocks.cleared_eq, Watchdog.next_writeClear]
  rfl

theorem clocks_readHandler (handler : Handler) (offset address : UInt16) (access : Access) :
    Moves (Same clocks) (readHandler handler offset address access) := by
  have flow := Same.flow clocks
  have refresh : Moves (Same clocks) refreshTimerRequest := fun _ => rfl
  unfold readHandler
  cases handler with
  | portData => exact Moves.readPort flow (fun _ _ => rfl) fun _ _ => rfl
  | timerStatus => exact clocks_onTimer fun timer => timer.count_readStatus access
  | inputCapture =>
    exact flow.seqLeft (clocks_onTimer fun timer => timer.count_readCapture _ access) refresh
  | outputCompare =>
    exact flow.seqLeft (clocks_onTimer fun timer => timer.count_readCompare _ access) refresh
  | counter =>
    exact flow.seqLeft (clocks_onTimer fun timer => timer.count_readCounter offset access) refresh
  | watchdogControl =>
    cases access with
    | program => exact fun _ => rfl
    | debugger => exact fun _ => rfl
  | _ => exact fun _ => rfl

/-- Only the registers that serve the watchdogs reach a clock. -/
theorem clocks_writeHandler {handler : Handler} (notKey : handler ≠ .watchdogKey)
    (notClear : handler ≠ .watchdogClear) (offset address : UInt16) (byte : UInt8) :
    Moves (Same clocks) (writeHandler handler offset address byte .program) := by
  have flow := Same.flow clocks
  have refresh : Moves (Same clocks) refreshTimerRequest := fun _ => rfl
  unfold writeHandler
  cases handler with
  | outputCompare =>
    exact flow.seqRight (clocks_onTimer fun timer => timer.count_writeCompare _ byte) refresh
  | watchdogKey => exact absurd rfl notKey
  | watchdogClear => exact absurd rfl notClear
  | _ => exact fun _ => rfl

theorem clocks_read (address : UInt16) (access : Access) :
    Moves (Same clocks) (Device.read address access) :=
  Moves.read (Same.flow clocks) (fun _ _ _ _ => clocks_readHandler _ _ _ access) fun _ _ _ => rfl

end Device

namespace Tells

variable {clocks : Clocks} {device : Device}

/-- An access that leaves the clocks alone, and does not serve a watchdog. -/
theorem access (tells : Tells history device.clocks) {made : BusAccess} {after : Device}
    (same : after.clocks = device.clocks)
    (key : device.variant.hasProgrammableWatchdog = true →
      (DeviceEvent.access made).written? keyAddress = none)
    (clear : device.variant.hasFixedWatchdog = true →
      (DeviceEvent.access made).written? clearAddress = none) :
    Tells (.access made :: history) after.clocks := by
  rw [same]
  exact tells.pass rfl DeviceEvent.noConfusion DeviceEvent.noConfusion key clear

/-- A write to the key register serves the programmable watchdog if it completes the sequence. All
that is kept of the count are bits above the fifteen that are compared. -/
theorem keyed (tells : Tells history clocks) {byte : UInt8} (power : event ≠ .power)
    (reset : event ≠ .reset) (free : event.clockCycles = 0)
    (written : event.written? keyAddress = some byte)
    (elsewhere : event.written? clearAddress = none) :
    Tells (event :: history) (clocks.keyed byte) where
  prescaler := tells.prescaler
  timer := by
    rw [clockedSince_of_free (decide_eq_false reset) free]
    exact tells.timer
  key _ := (lastKey_of_written power written).symm
  programmable fitted := by
    have last : clocks.watchdog.key = lastKey history := tells.key fitted
    have restarts := restartsProgrammable_of_written power written history
    unfold Clocks.keyed Watchdog.writeKey
    dsimp only
    rw [last, ← restarts]
    cases served : restartsProgrammable event history with
    | true =>
      rw [clockedSince_of_restart served, if_pos rfl, UInt32.toNat_and, Nat.and_mod_two_pow]
      exact Nat.and_zero _
    | false =>
      rw [clockedSince_of_free served free, if_neg Bool.false_ne_true]
      exact tells.programmable fitted
  fixed enabled := by
    rw [clockedSince_of_free (restartsFixed_of_unwritten reset elsewhere _) free]
    exact tells.fixed enabled

/-- A write to the clear register serves the non-programmable watchdog if the lowest bit of the byte
is clear. -/
theorem cleared (tells : Tells history clocks) {byte : UInt8} (power : event ≠ .power)
    (reset : event ≠ .reset) (free : event.clockCycles = 0)
    (written : event.written? clearAddress = some byte)
    (elsewhere : event.written? keyAddress = none) :
    Tells (event :: history) (clocks.cleared byte) := by
  rw [clocks.cleared_eq]
  exact {
    prescaler := tells.prescaler
    timer := by
      rw [clockedSince_of_free (decide_eq_false reset) free]
      exact tells.timer
    key := by
      rw [lastKey_of_unwritten power elsewhere]
      exact tells.key
    programmable := by
      rw [clockedSince_of_free (restartsProgrammable_of_unwritten power elsewhere _) free]
      exact tells.programmable
    fixed := by
      intro enabled
      obtain ⟨fitted, count⟩ := tells.fixed enabled
      refine ⟨fitted, ?_⟩
      have restarts := restartsFixed_of_written reset written history
      by_cases serves : byte % 2 = 0
      · rw [decide_eq_true serves] at restarts
        rw [clockedSince_of_restart restarts, if_pos serves]
        rfl
      · rw [decide_eq_false serves] at restarts
        rw [clockedSince_of_free restarts free, if_neg serves]
        exact count }

/-- Program writes. -/
theorem write (tells : Tells history device.clocks) (address : UInt16) (byte : UInt8) :
    Tells (.access (.write address byte) :: history)
      (Device.write address byte .program device).2.clocks := by
  have unserved {place : UInt16} (other : busAddress address ≠ place) :
      (DeviceEvent.access (.write address byte)).written? place = none := by
    rw [DeviceEvent.written?_write, if_neg other]
  have served {place : UInt16} (there : busAddress address = place) :
      (DeviceEvent.access (.write address byte)).written? place = some byte := by
    rw [DeviceEvent.written?_write, if_pos there]
  rcases goes : device.variant.addressMap.writer? (busAddress address) with
    _ | ⟨handler, offset⟩
  · obtain ⟨watches, bench, same⟩ := write_unhandled goes byte
    rw [same]
    refine tells.access rfl (fun fitted => unserved fun place => ?_)
      fun fitted => unserved fun place => ?_
    · rw [place, Variant.writer_key fitted] at goes
      cases goes
    · rw [place, Variant.writer_clear fitted] at goes
      cases goes
  · obtain ⟨watches, bench, same⟩ := write_handled goes byte
    rw [same]
    by_cases key : handler = .watchdogKey
    · rw [key] at goes ⊢
      exact tells.keyed DeviceEvent.noConfusion DeviceEvent.noConfusion rfl
        (served (Variant.key_of_writer goes))
        (unserved (by rw [Variant.key_of_writer goes]; decide))
    by_cases clear : handler = .watchdogClear
    · rw [clear] at goes ⊢
      have cleared := clocks_writeClear byte { device with watches, bench }
      exact cleared ▸ tells.cleared DeviceEvent.noConfusion DeviceEvent.noConfusion rfl
        (served (Variant.clear_of_writer goes))
        (unserved (by rw [Variant.clear_of_writer goes]; decide))
    have handled := clocks_writeHandler key clear offset (busAddress address) byte
      { device with watches, bench }
    refine tells.access handled (fun fitted => unserved fun place => ?_)
      fun fitted => unserved fun place => ?_
    · rw [place, Variant.writer_key fitted] at goes
      cases goes
      exact key rfl
    · rw [place, Variant.writer_clear fitted] at goes
      cases goes
      exact clear rfl

end Tells

/-! ## Resets -/

namespace Tells

variable {device : Device}

/-- A reset starts the timer and the non-programmable watchdog again, whatever they were. -/
theorem reset (key : device.variant.hasProgrammableWatchdog = true →
      device.watchdog.key = lastKey history)
    (programmable : device.variant.hasProgrammableWatchdog = true →
      device.watchdog.programmableCount.toNat % 2 ^ 15 =
        clockedSince restartsProgrammable history % 2 ^ 15)
    (fixed : device.watchdog.fixedEnabled = true → device.variant.hasFixedWatchdog = true) :
    Tells (.reset :: history) device.cleared.clocks := by
  have watchdog : device.resetWatchdog = { device.watchdog.reset with
      fixedEnabled := device.resetWatchdog.fixedEnabled } := by
    unfold resetWatchdog
    split
    · rfl
    · rfl
  have registers : device.cleared.clocks = { device.clocks with
      prescaler := 0
      counter := Timer.counterReset
      watchdog := { device.watchdog.reset.counters with
        fixedEnabled := device.resetWatchdog.fixedEnabled } } := by
    change { device.clocks with
      prescaler := 0
      counter := Timer.counterReset
      watchdog := device.resetWatchdog.counters } = _
    rw [watchdog]
    rfl
  rw [registers]
  exact {
    prescaler := (by decide : (0 : UInt8).toNat < 16)
    timer := by
      rw [clockedSince_of_restart rfl]
      exact (by decide : 16 * Timer.counterReset.toNat + (0 : UInt8).toNat =
        (16 * 0xFFFC + 0) % 2 ^ 20)
    key := key
    programmable := by
      rw [clockedSince_of_free rfl rfl]
      exact programmable
    fixed := by
      intro enabled
      rw [clockedSince_of_restart rfl]
      refine ⟨?_, rfl⟩
      change device.resetWatchdog.fixedEnabled = true at enabled
      unfold resetWatchdog at enabled
      split at enabled
      · assumption
      · exact fixed enabled }

theorem power (tells : Tells history device.clocks) :
    Tells (.power :: history) device.powered.clocks where
  prescaler := tells.prescaler
  timer := by
    rw [clockedSince_of_free rfl rfl]
    exact tells.timer
  key _ := rfl
  programmable _ := by
    rw [clockedSince_of_restart rfl]
    rfl
  fixed enabled := nomatch enabled

end Tells

/-- The external interrupt line touches its own level, the edge that it latches and the trace. -/
theorem Device.setInterruptLine_apply (asserted : Bool) (device : Device) : ∃ pending bench,
    (setInterruptLine asserted device).2 =
      { device with pending, lineAsserted := asserted, bench } := by
  unfold setInterruptLine
  simp only [bind_apply, get_apply, Action.ite_apply]
  split
  · exact ⟨_, _, rfl⟩
  · exact ⟨_, _, rfl⟩

/-- The relation between devices that tell of a history and of what happens next. -/
def TellsOn (events : List DeviceEvent) (before after : Device) : Prop :=
  ∀ history, Tells history before.clocks → Tells (events.reverse ++ history) after.clocks

namespace TellsOn

theorem of_same {before after : Device} (same : after.clocks = before.clocks) :
    TellsOn [] before after := by
  intro history tells
  rw [same]
  exact tells

theorem setCaptureLine (level : Bool) : Moves (Same clocks) (setCaptureLine level) :=
  (Same.flow clocks).bind (clocks_onTimer fun timer => timer.count_setCaptureLevel level)
    fun _ _ => rfl

theorem boardAccount : BoardAccount TellsOn where
  refl _ _ := id
  trans first second history tells := by
    rw [List.reverse_append, List.append_assoc]
    exact second _ (first history tells)
  cpu _ _ _ := of_same rfl
  remark _ _ _ := of_same rfl
  read address device _ tells :=
    tells.access (clocks_read address .program device) (fun _ => rfl) fun _ => rfl
  write address byte _ _ tells := tells.write address byte
  signalled _ _ := of_same rfl
  charge cycles device _ tells := by
    rw [clocks_charge]
    exact tells.advance cycles
  idle _ _ tells :=
    tells.pass rfl DeviceEvent.noConfusion DeviceEvent.noConfusion (fun _ => rfl) fun _ => rfl
  cleared _ _ tells := .reset tells.key tells.programmable fun enabled => (tells.fixed enabled).1
  stop _ _ := of_same rfl
  grant _ _ := of_same rfl
  power _ _ tells := tells.power
  interruptLine asserted device := by
    obtain ⟨pending, bench, same⟩ := device.setInterruptLine_apply asserted
    rw [same]
    exact of_same rfl
  captureLine level device := of_same (setCaptureLine level device)

end TellsOn

/-- The clocks of a device that is started tell of its history from then on, whatever they were
before. -/
theorem Tells.start (device : Device) :
    Tells (Operation.start.events device).reverse (Device.start device).2.clocks := by
  have cleared : Tells [.reset, .power] device.powered.cleared.clocks := by
    refine .reset (fun _ => rfl) (fun _ => ?_) fun enabled => nomatch enabled
    rw [clockedSince_of_restart rfl]
    rfl
  have jumped := TellsOn.boardAccount.accesses.jumpThrough resetVector device.powered.cleared
  rw [wordAccesses_cleared, ← reset_eq] at jumped
  have told := jumped _ cleared
  have events : (Operation.start.events device).reverse =
      (accessEvents (device.vectorAccesses resetVector)).reverse ++ [.reset, .power] := by
    change (.power :: .reset :: accessEvents (device.vectorAccesses resetVector)).reverse = _
    rw [List.reverse_cons, List.reverse_cons, List.append_assoc]
    rfl
  have powers : Device.start device = Device.reset device.powered := rfl
  rw [events, powers]
  exact told

/-! ## The cycle counter -/

/-- The relation between devices whose cycle counters lie apart as far as the events in between
say. -/
def Elapses (events : List DeviceEvent) (before after : Device) : Prop :=
  after.cpu.tick = before.cpu.tick + UInt64.ofNat (elapsed events)

namespace Elapses

theorem of_same {before after : Device} {events : List DeviceEvent}
    (timeless : elapsed events = 0) (same : after.cpu.tick = before.cpu.tick) :
    Elapses events before after := by
  unfold Elapses
  rw [timeless, same]
  exact (UInt64.add_zero _).symm

theorem boardAccount : BoardAccount Elapses where
  refl _ := of_same rfl rfl
  trans := by
    intro early late a b c first second
    unfold Elapses at *
    have sum : elapsed (early ++ late) = elapsed early + elapsed late := by
      unfold elapsed
      rw [List.map_append, List.sum_append]
    rw [second, first, sum, UInt64.ofNat_add, UInt64.add_assoc]
  cpu _ _ timeless := of_same rfl timeless
  remark _ _ _ := of_same rfl rfl
  read address device := of_same rfl (tick_flow.read address device)
  write address byte device := of_same rfl (tick_flow.write address byte device)
  signalled _ _ := of_same rfl rfl
  charge cycles device := by
    unfold Elapses
    rw [charge_cpu]
    rfl
  idle _ := rfl
  cleared _ := of_same rfl rfl
  stop _ _ := of_same rfl rfl
  grant _ _ := of_same rfl rfl
  power _ := of_same rfl rfl
  interruptLine asserted device := by
    obtain ⟨pending, bench, same⟩ := device.setInterruptLine_apply asserted
    rw [same]
    exact of_same rfl rfl
  captureLine _ _ := of_same rfl rfl

end Elapses

/-! ## Steps -/

theorem clocked_append (early late : List DeviceEvent) :
    clocked (early ++ late) = clocked early + clocked late := by
  unfold clocked
  rw [List.map_append, List.sum_append]

theorem clocked_cons (event : DeviceEvent) (events : List DeviceEvent) :
    clocked (event :: events) = event.clockCycles + clocked events :=
  List.sum_cons

/-- No cycles pass in an access. -/
theorem clocked_accessEvents (accesses : List BusAccess) : clocked (accessEvents accesses) = 0 := by
  induction accesses with
  | nil => rfl
  | cons made accesses ih =>
    have first : clocked (accessEvents (made :: accesses)) = 0 + clocked (accessEvents accesses) :=
      clocked_cons (.access made) (accessEvents accesses)
    rw [first, ih]

namespace Device

variable {device : Device}

/-- The device only lets time pass in its next step, since its processor is stopped and no interrupt
is due that would wake it. -/
def IdlesInStop (device : Device) : Prop :=
  device.cpu.state = .stop ∧ device.interruptDue? = none

instance : DecidablePred IdlesInStop := fun device =>
  inferInstanceAs (Decidable (device.cpu.state = .stop ∧ device.interruptDue? = none))

theorem clocked_resetEvents (device : Device) : clocked device.resetEvents = 0 := by
  unfold resetEvents
  rw [clocked_cons, clocked_accessEvents]
  rfl

theorem clocked_entryEvents (device : Device) :
    clocked device.entryEvents = (serveInterrupt device).1 := by
  unfold entryEvents
  rcases due : device.interruptDue? with _ | line
  · rw [serveInterrupt_idle due]
    rfl
  · rw [serveInterrupt_due due]
    dsimp only
    rw [clocked_append, clocked_append, clocked_accessEvents, clocked_accessEvents]
    rfl

theorem clocked_turnEvents (device : Device) : clocked device.turnEvents =
    if device.cpu.state = .stop then 0 else (runProcessor device).1 := by
  unfold turnEvents
  cases state : device.cpu.state with
  | running =>
    rw [runProcessor_running state]
    dsimp only
    rw [clocked_append, clocked_append, clocked_accessEvents, clocked_accessEvents, clocked_cons]
    exact Nat.zero_add _
  | wait =>
    rw [runProcessor_wait state]
    rfl
  | stop => rfl

/-- A processor that is stopped when it takes its turn was not woken up by an interrupt. -/
theorem stop_at_turn : (serveInterrupt device).2.cpu.state = .stop ↔ device.IdlesInStop := by
  unfold IdlesInStop
  rcases due : device.interruptDue? with _ | line
  · rw [serveInterrupt_idle due]
    simp
  · rw [serveInterrupt_due due, charge_cpu, entered_cpu]
    simp [Cpu.addTicks]

/-- The cycles that a step charges to the timer and the watchdogs are all of its cycles, unless the
processor idles in a stop. -/
theorem clocked_eventsInStep (device : Device) :
    clocked device.eventsInStep = if device.IdlesInStop then 0 else (step device).1 := by
  have resets : clocked (if device.turned.resetDue = true then device.turned.resetEvents else []) =
      0 := by
    split
    · exact clocked_resetEvents device.turned
    · rfl
  unfold eventsInStep
  rw [clocked_append, clocked_append, clocked_entryEvents, clocked_turnEvents, resets, step_apply]
  dsimp only
  by_cases idles : device.IdlesInStop
  · rw [if_pos (stop_at_turn.mpr idles), if_pos idles, serveInterrupt_idle idles.2]
  · rw [if_neg (mt stop_at_turn.mp idles), if_neg idles, Nat.add_zero]

end Device

/-! ## Runs of a board -/

/-- No cycle is lost to one of the clocks of a device or counted by it twice. A step answers the
cycles by which the cycle counter grows, and charges all of them to the other clocks, unless the
processor idles in a stop, when nothing but the cycle counter changes. After any operations of a
board on a device that has been started, the timer, the programmable watchdog by its fifteen low
bits, and the non-programmable one while it is enabled tell the cycles that have been charged since
each of them last started again. -/
theorem clocks_agree (device : Device) {operations : List Operation}
    (board : ∀ operation ∈ operations, operation.ofBoard = true) :
    let started := (Device.start device).2
    let events := along Operation.events operations started
    let history := events.reverse ++ (Operation.start.events device).reverse
    let present := runAll operations started
    (∀ boundary ∈ along Operation.boundaries operations started,
      let stepped := (Device.step boundary).2
      let cycles := (Device.step boundary).1
      stepped.cpu.tick = boundary.cpu.tick + UInt64.ofNat cycles ∧
      clocked boundary.eventsInStep = (if boundary.IdlesInStop then 0 else cycles) ∧
      (boundary.IdlesInStop → stepped = { boundary with cpu := boundary.cpu.addTicks cycles })) ∧
    present.cpu.tick = started.cpu.tick + UInt64.ofNat (elapsed events) ∧
    16 * present.timer.counter.toNat + present.timer.prescaler.toNat =
      (16 * 0xFFFC + clockedSince restartsTimer history) % 2 ^ 20 ∧
    (present.variant = .c8a → present.watchdog.programmableCount.toNat % 2 ^ 15 =
      clockedSince restartsProgrammable history % 2 ^ 15) ∧
    (present.watchdog.fixedEnabled = true → present.watchdog.fixedCount.toNat =
      clockedSince restartsFixed history % 2 ^ 17) := by
  intro started events history present
  have tells : Tells history present.clocks :=
    TellsOn.boardAccount.run board started _ (Tells.start device)
  have settled := Settled.operationFlow.boundaries operations (Settled.of_reset device.powered)
  refine ⟨fun boundary member => ⟨step_tick boundary, clocked_eventsInStep boundary, ?_⟩,
    Elapses.boardAccount.run board started, tells.timer, ?_, ?_⟩
  · rintro ⟨stopped, due⟩
    rw [step_stopped stopped due (settled boundary member)]
  · intro fitted
    exact tells.programmable (congrArg Variant.hasProgrammableWatchdog fitted)
  · intro enabled
    exact (tells.fixed enabled).2

/-- Both watchdogs of a part are served at different times, while the part makes four steps of five
cycles. Its memory is full of ones, which are branches and enable the non-programmable watchdog in
the mask option. -/
theorem clocks_agree_of_served :
    let device := { Device.new .c8a 4000000 with memory := ⟨.replicate addressSpace 0x01⟩ }
    let operations : List Operation :=
      [.write 0x001D 0x55 .program, .step, .write 0x001D 0xAA .program, .step, .step,
        .write 0x1FF0 0x00 .program, .step]
    let started := (Device.start device).2
    let history := (along Operation.events operations started).reverse ++
      (Operation.start.events device).reverse
    let present := runAll operations started
    (∀ operation ∈ operations, operation.ofBoard = true) ∧
      present.variant = .c8a ∧ present.watchdog.fixedEnabled = true ∧
      clockedSince restartsTimer history = 20 ∧
      clockedSince restartsProgrammable history = 15 ∧
      clockedSince restartsFixed history = 5 ∧
      16 * present.timer.counter.toNat + present.timer.prescaler.toNat =
        (16 * 0xFFFC + clockedSince restartsTimer history) % 2 ^ 20 ∧
      present.watchdog.programmableCount.toNat % 2 ^ 15 =
        clockedSince restartsProgrammable history % 2 ^ 15 ∧
      present.watchdog.fixedCount.toNat = clockedSince restartsFixed history % 2 ^ 17 := by
  intro device operations started history present
  have board : ∀ operation ∈ operations, operation.ofBoard = true := by decide
  have facts : present.variant = .c8a ∧ present.watchdog.fixedEnabled = true ∧
      clockedSince restartsTimer history = 20 ∧ clockedSince restartsProgrammable history = 15 ∧
      clockedSince restartsFixed history = 5 := by
    decide +kernel
  obtain ⟨part, enabled, timer, programmable, fixed⟩ := facts
  obtain ⟨-, -, counter, first, second⟩ := clocks_agree device board
  exact ⟨board, part, enabled, timer, programmable, fixed, counter, first part, second enabled⟩

end M68HC05
