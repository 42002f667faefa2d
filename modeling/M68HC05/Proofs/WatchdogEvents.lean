import M68HC05.Proofs.Bits
import M68HC05.Watchdog

/-!
What may happen to the watchdogs, as events (`WatchdogEvent`), and the watchdogs after a list of them
(`Watchdog.replay`). The lemmas say what an event does to the counts and to the bits of the control
register: the armed bit and the timeout flag have one way up and one way down each.
-/

namespace M68HC05

/-! ## Counts -/

/-- A count that wraps at the end of its range, after some cycles. -/
def counted (range : Nat) (count : UInt32) (cycles : Nat) : UInt32 :=
  UInt32.ofNat ((count.toNat + cycles) % range)

section Counted

variable {range : Nat} (positive : 0 < range) (small : range < UInt32.size) (count : UInt32)
include positive small

theorem toNat_counted (cycles : Nat) :
    (counted range count cycles).toNat = (count.toNat + cycles) % range :=
  UInt32.toNat_ofNat_of_lt' (Nat.lt_trans (Nat.mod_lt _ positive) small)

theorem counted_add (first second : Nat) :
    counted range (counted range count first) second = counted range count (first + second) := by
  have before := toNat_counted positive small count first
  change UInt32.ofNat (((counted range count first).toNat + second) % range) = _
  rw [before, Nat.mod_add_mod, Nat.add_assoc, counted]

end Counted

theorem counted_zero {range : Nat} {count : UInt32} (inside : count.toNat < range) :
    counted range count 0 = count := by
  unfold counted
  rw [Nat.add_zero, Nat.mod_eq_of_lt inside, UInt32.ofNat_toNat]

/-! ## Events -/

/-- What may happen to the watchdogs. -/
inductive WatchdogEvent where
  /-- power is applied -/
  | power
  | reset
  /-- cycles are charged to both watchdogs -/
  | charged (cycles : Nat)
  | keyWritten (byte : UInt8)
  | controlWritten (byte : UInt8)
  | controlRead (access : Access)
  | clearWritten (byte : UInt8)
  /-- the non-programmable watchdog is switched -/
  | switched (enabled : Bool)
  deriving DecidableEq

namespace WatchdogEvent

/-- The cycles that are charged in an event. -/
def cycles : WatchdogEvent → Nat
  | charged cycles => cycles
  | _ => 0

end WatchdogEvent

namespace Watchdog

variable {kinds : WatchdogKinds} {watchdog : Watchdog} {event : WatchdogEvent}

/-- The watchdogs after an event. -/
def turn (kinds : WatchdogKinds) (watchdog : Watchdog) : WatchdogEvent → Watchdog
  | .power => watchdog.powerOn
  | .reset => watchdog.reset
  | .charged cycles => (watchdog.advance kinds cycles).next
  | .keyWritten byte => (watchdog.writeKey byte).next
  | .controlWritten byte => (watchdog.writeControl byte).next
  | .controlRead access => (watchdog.readControl access).next
  | .clearWritten byte => (watchdog.writeClear byte).next
  | .switched enabled => (watchdog.switchFixed enabled).next

/-- The watchdogs after some events. -/
def replay (kinds : WatchdogKinds) (events : List WatchdogEvent) (watchdog : Watchdog) : Watchdog :=
  events.foldl (turn kinds) watchdog

theorem replay_append (early late : List WatchdogEvent) (watchdog : Watchdog) :
    watchdog.replay kinds (early ++ late) = (watchdog.replay kinds early).replay kinds late :=
  List.foldl_append

/-- What each of some events keeps, all of them keep. -/
theorem replay_kept {P : Watchdog → Prop} {events : List WatchdogEvent}
    (each : ∀ event ∈ events, ∀ watchdog, P watchdog → P (turn kinds watchdog event))
    (holds : P watchdog) : P (watchdog.replay kinds events) := by
  induction events generalizing watchdog with
  | nil => exact holds
  | cons event events ih =>
    have first := each event List.mem_cons_self watchdog holds
    exact ih (fun other member => each other (List.mem_cons_of_mem event member)) first

/-! ## Time -/

/-- The count of a part with the programmable watchdog goes on, armed or not. -/
theorem programmableCount_advance (fitted : kinds.programmable = true) (cycles : Nat) :
    (watchdog.advance kinds cycles).next.programmableCount.toNat =
      (watchdog.programmableCount.toNat + cycles) % programmableRange := by
  unfold advance
  dsimp only
  rw [if_pos fitted]
  exact toNat_counted (by decide) (by decide) watchdog.programmableCount cycles

theorem fixedCount_advance (counts : (kinds.fixed && watchdog.fixedEnabled) = true) (cycles : Nat) :
    (watchdog.advance kinds cycles).next.fixedCount.toNat =
      (watchdog.fixedCount.toNat + cycles) % fixedRange := by
  unfold advance
  dsimp only
  rw [if_pos counts]
  exact toNat_counted (by decide) (by decide) watchdog.fixedCount cycles

theorem runsOut_iff (fitted : kinds.programmable = true) (cycles : Nat) :
    watchdog.programmableRunsOut kinds cycles = true ↔ watchdog.control &&& armed ≠ 0 ∧
      watchdog.timeout ≤ watchdog.programmableCount.toNat % watchdog.timeout + cycles := by
  unfold programmableRunsOut
  simp [fitted]

/-- A timeout of the programmable watchdog is remarked when it runs out, and only then. -/
theorem programmableTimeout_mem_iff (cycles : Nat) :
    .remark .programmableTimeout ∈ (watchdog.advance kinds cycles).report ↔
      watchdog.programmableRunsOut kinds cycles = true := by
  unfold advance
  dsimp only
  by_cases out : watchdog.programmableRunsOut kinds cycles = true
  · rw [if_pos out]
    exact iff_of_true List.mem_cons_self out
  · rw [if_neg out, List.nil_append]
    refine iff_of_false (fun member => ?_) out
    split at member
    · exact nomatch List.mem_singleton.mp member
    · exact List.not_mem_nil member

/-! ## Bits of the control register -/

/-- Software cannot clear the armed bit. -/
theorem armed_writeControl (up : watchdog.control &&& armed ≠ 0) (byte : UInt8) :
    (watchdog.writeControl byte).next.control &&& armed ≠ 0 := by
  have kept : (0xF4 : UInt8) &&& armed = armed := by decide
  unfold writeControl
  dsimp only
  rw [or_and_right8, UInt8.and_assoc, kept, Ne, UInt8.or_eq_zero_iff]
  exact fun none => up none.1

/-- The period is what was written last. -/
theorem period_writeControl (watchdog : Watchdog) (byte : UInt8) :
    (watchdog.writeControl byte).next.control &&& period = byte &&& period := by
  have dropped : (0xF4 : UInt8) &&& period = 0 := by decide
  have taken : (0x0F : UInt8) &&& period = period := by decide
  unfold writeControl
  dsimp only
  rw [or_and_right8, UInt8.and_assoc, UInt8.and_assoc, dropped, taken, UInt8.and_zero,
    UInt8.zero_or]

/-- A timeout leaves the bits of the control register alone that are not the timeout flag. -/
theorem control_advance {mask : UInt8} (apart : timeoutFlag &&& mask = 0) (cycles : Nat) :
    (watchdog.advance kinds cycles).next.control &&& mask = watchdog.control &&& mask := by
  unfold advance
  dsimp only
  split
  · rw [or_and_right8, apart, UInt8.or_zero]
  · rfl

theorem control_readControl {mask : UInt8} (apart : ~~~timeoutFlag &&& mask = mask)
    (access : Access) :
    (watchdog.readControl access).next.control &&& mask = watchdog.control &&& mask := by
  cases access with
  | debugger => rfl
  | program =>
    unfold readControl
    dsimp only
    rw [UInt8.and_assoc, apart]

theorem control_writeClear (byte : UInt8) :
    (watchdog.writeClear byte).next.control = watchdog.control := by
  unfold writeClear
  dsimp only
  split
  · rfl
  · rfl

/-- Software cannot write the timeout flag. -/
theorem timeoutFlag_writeControl (watchdog : Watchdog) (byte : UInt8) :
    (watchdog.writeControl byte).next.control &&& timeoutFlag =
      watchdog.control &&& timeoutFlag := by
  have high : (0xF4 : UInt8) &&& timeoutFlag = timeoutFlag := by decide
  have low : (0x0F : UInt8) &&& timeoutFlag = 0 := by decide
  unfold writeControl
  dsimp only
  rw [or_and_right8, UInt8.and_assoc, UInt8.and_assoc, high, low, UInt8.and_zero, UInt8.or_zero]

/-- A timeout raises the timeout flag, and time never lowers it. -/
theorem timeoutFlag_advance_iff (watchdog : Watchdog) (kinds : WatchdogKinds) (cycles : Nat) :
    (watchdog.advance kinds cycles).next.control &&& timeoutFlag ≠ 0 ↔
      watchdog.programmableRunsOut kinds cycles = true ∨ watchdog.control &&& timeoutFlag ≠ 0 := by
  unfold advance
  dsimp only
  split
  · rename_i out
    refine iff_of_true ?_ (.inl out)
    rw [or_and_right8, UInt8.and_self, Ne, UInt8.or_eq_zero_iff]
    exact fun none => absurd none.2 (by decide)
  · rename_i goes
    exact ⟨.inr, fun either => either.resolve_left goes⟩

/-! ## What an event does to the bits -/

/-- Only power and reset disarm the programmable watchdog. -/
theorem armed_turn (power : event ≠ .power) (reset : event ≠ .reset)
    (up : watchdog.control &&& armed ≠ 0) : (watchdog.turn kinds event).control &&& armed ≠ 0 := by
  cases event with
  | power => exact absurd rfl power
  | reset => exact absurd rfl reset
  | charged cycles => exact fun down => up ((control_advance (by decide) cycles).symm.trans down)
  | controlWritten byte => exact armed_writeControl up byte
  | controlRead access =>
    exact fun down => up ((control_readControl (by decide) access).symm.trans down)
  | clearWritten byte =>
    exact fun down => up ((congrArg (· &&& armed) (control_writeClear byte)).symm.trans down)
  | _ => exact up

/-- The non-programmable watchdog is switched by power and by taking over the mask option. -/
theorem fixedEnabled_turn (power : event ≠ .power)
    (switched : ∀ enabled, event ≠ .switched enabled) :
    (watchdog.turn kinds event).fixedEnabled = watchdog.fixedEnabled := by
  cases event with
  | power => exact absurd rfl power
  | switched enabled => exact absurd rfl (switched enabled)
  | controlRead access =>
    cases access with
    | _ => rfl
  | clearWritten byte =>
    unfold turn writeClear
    dsimp only
    split
    · rfl
    · rfl
  | _ => rfl

/-- Only power and a program read of the control register take the timeout flag down, and only a
timeout raises it. -/
theorem timeoutFlag_turn_iff (power : event ≠ .power) (read : event ≠ .controlRead .program) :
    (watchdog.turn kinds event).control &&& timeoutFlag ≠ 0 ↔
      (∃ cycles, event = .charged cycles ∧ watchdog.programmableRunsOut kinds cycles = true) ∨
        watchdog.control &&& timeoutFlag ≠ 0 := by
  have of_same (uncharged : ∀ cycles, event ≠ .charged cycles)
      (same : (watchdog.turn kinds event).control &&& timeoutFlag =
        watchdog.control &&& timeoutFlag) :
      (watchdog.turn kinds event).control &&& timeoutFlag ≠ 0 ↔
        (∃ cycles, event = .charged cycles ∧ watchdog.programmableRunsOut kinds cycles = true) ∨
          watchdog.control &&& timeoutFlag ≠ 0 := by
    rw [same]
    exact ⟨.inr, fun either => either.resolve_left fun ⟨cycles, charged, _⟩ =>
      uncharged cycles charged⟩
  cases event with
  | power => exact absurd rfl power
  | reset =>
    refine of_same (fun _ => WatchdogEvent.noConfusion) ?_
    change watchdog.control &&& timeoutFlag &&& timeoutFlag = _
    rw [UInt8.and_assoc, UInt8.and_self]
  | charged cycles =>
    refine (watchdog.timeoutFlag_advance_iff kinds cycles).trans (or_congr_left ?_)
    refine ⟨fun out => ⟨cycles, rfl, out⟩, fun ⟨_, same, out⟩ => ?_⟩
    cases same
    exact out
  | controlWritten byte =>
    exact of_same (fun _ => WatchdogEvent.noConfusion) (watchdog.timeoutFlag_writeControl byte)
  | controlRead access =>
    cases access with
    | program => exact absurd rfl read
    | debugger => exact of_same (fun _ => WatchdogEvent.noConfusion) rfl
  | clearWritten byte =>
    exact of_same (fun _ => WatchdogEvent.noConfusion)
      (congrArg (· &&& timeoutFlag) (control_writeClear byte))
  | _ => exact of_same (fun _ => WatchdogEvent.noConfusion) rfl

/-- The timeout flag rises in a charge that lets the programmable watchdog run out. -/
theorem charged_of_rise (down : watchdog.control &&& timeoutFlag = 0)
    (up : (watchdog.turn kinds event).control &&& timeoutFlag ≠ 0) :
    ∃ cycles, event = .charged cycles ∧ watchdog.programmableRunsOut kinds cycles = true := by
  by_cases power : event = .power
  · rw [power] at up
    exact absurd UInt8.zero_and up
  by_cases read : event = .controlRead .program
  · rw [read] at up
    refine absurd ?_ up
    change watchdog.control &&& ~~~timeoutFlag &&& timeoutFlag = 0
    rw [UInt8.and_assoc, UInt8.not_and_self, UInt8.and_zero]
  exact ((timeoutFlag_turn_iff power read).mp up).resolve_right (not_not_intro down)

end Watchdog
end M68HC05
