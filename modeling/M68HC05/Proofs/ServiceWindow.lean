import Mathlib.Algebra.GroupWithZero.Nat
import M68HC05.Proofs.WatchdogEvents

/-!
The service window of the programmable watchdog. Its count goes on whether or not it is armed, is
compared modulo a period that software selects, and loses only its fifteen low bits when the
watchdog is served; so what can be told of the cycles since the last service is the count modulo the
shortest period (`Watchdog.Remembers`). That is enough for the lower end of the window: no timeout
comes in the shortest period after a service, whatever periods were selected meanwhile. The upper
end is a crossing: while the watchdog is armed, keeps its period and is not served, the count has to
pass a multiple of the period before as many cycles as a period has are charged
(`Watchdog.exists_runsOut`).

The main statement is `Watchdog.service_window`.
-/

namespace M68HC05

/-! ## Histories -/

namespace WatchdogEvent

/-- The cycles that are charged in some events. -/
def total (events : List WatchdogEvent) : Nat :=
  (events.map cycles).sum

theorem total_cons (event : WatchdogEvent) (events : List WatchdogEvent) :
    total (event :: events) = event.cycles + total events :=
  List.sum_cons

/-- The byte last written to the key register since power was applied, if there is one. The history
has the latest event first. -/
def lastKey? : List WatchdogEvent → Option UInt8
  | [] => none
  | power :: _ => none
  | keyWritten byte :: _ => some byte
  | _ :: past => lastKey? past

/-- The event completes the service of the programmable watchdog: 0xAA is written to the key
register, and the byte written to it before was 0x55. -/
def serves (event : WatchdogEvent) (past : List WatchdogEvent) : Bool :=
  event = .keyWritten 0xAA && lastKey? past = some 0x55

theorem serves_of_ne {event : WatchdogEvent} (other : event ≠ .keyWritten 0xAA)
    (past : List WatchdogEvent) : serves event past = false := by
  unfold serves
  rw [decide_eq_false other, Bool.false_and]

/-- The cycles that have been charged since the programmable watchdog was last served, or since
power was applied. The history has the latest event first. -/
def unserved : List WatchdogEvent → Nat
  | [] => 0
  | event :: past =>
    if event = .power ∨ serves event past = true then 0 else event.cycles + unserved past

/-- An armed watchdog stays armed in the event and keeps the period. -/
def keepsPeriod (selection : UInt8) : WatchdogEvent → Bool
  | power => false
  | reset => false
  | controlWritten byte => byte &&& Watchdog.period = selection
  | _ => true

end WatchdogEvent

namespace Watchdog

open WatchdogEvent

variable {kinds : WatchdogKinds} {watchdog : Watchdog} {event : WatchdogEvent}
  {history : List WatchdogEvent} {selection : UInt8}

/-! ## Periods -/

theorem timeout_eq (watchdog : Watchdog) :
    watchdog.timeout = 2 ^ 15 * 2 ^ (2 * (watchdog.control &&& period).toNat) := by
  unfold timeout
  rw [Nat.one_shiftLeft, Nat.pow_add]

theorem timeout_pos (watchdog : Watchdog) : 0 < watchdog.timeout := by
  rw [timeout_eq]
  exact Nat.mul_pos (Nat.two_pow_pos 15) (Nat.two_pow_pos _)

/-- Every period is a part of the range of the count. -/
theorem timeout_dvd (watchdog : Watchdog) : watchdog.timeout ∣ programmableRange := by
  have small : (watchdog.control &&& period).toNat ≤ 3 := by
    rw [UInt8.toNat_and]
    exact Nat.and_le_right
  have range : programmableRange = 2 ^ 21 := rfl
  unfold timeout
  rw [Nat.one_shiftLeft, range]
  exact Nat.pow_dvd_pow 2 (by omega)

/-! ## What the registers remember -/

/-- The registers of the programmable watchdog remember of a history the last key and, modulo the
shortest period, the cycles since the last service. -/
structure Remembers (history : List WatchdogEvent) (watchdog : Watchdog) : Prop where
  key : watchdog.key = (lastKey? history).getD 0
  count : watchdog.programmableCount.toNat % 2 ^ 15 = unserved history % 2 ^ 15

/-- The sequence that the registers see completed is the one in the history. -/
theorem Remembers.completes_eq (remembers : Remembers history watchdog) (byte : UInt8) :
    (byte = 0xAA && watchdog.key = 0x55 : Bool) = serves (.keyWritten byte) history := by
  have last : (watchdog.key = 0x55) = (lastKey? history = some 0x55) := by
    rw [remembers.key]
    rcases lastKey? history with _ | key
    · simp
    · simp
  unfold serves
  simp [last]

theorem unserved_of_serves (served : serves event history = true) :
    unserved (event :: history) = 0 := by
  rw [unserved, if_pos (.inr served)]

theorem unserved_of_not (power : event ≠ .power) (goes : serves event history = false) :
    unserved (event :: history) = event.cycles + unserved history := by
  rw [unserved, if_neg (not_or.mpr ⟨power, Bool.eq_false_iff.mp goes⟩)]

/-- An event that has nothing to do with the key and the count may pass. -/
theorem Remembers.pass (remembers : Remembers history watchdog) {after : Watchdog}
    (power : event ≠ .power) (goes : serves event history = false) (free : event.cycles = 0)
    (last : lastKey? (event :: history) = lastKey? history) (key : after.key = watchdog.key)
    (count : after.programmableCount = watchdog.programmableCount) :
    Remembers (event :: history) after where
  key := by rw [key, last, remembers.key]
  count := by rw [count, unserved_of_not power goes, free, Nat.zero_add, remembers.count]

/-- Serving the watchdog clears exactly the bits that the shortest period compares. -/
theorem Remembers.keyWritten (remembers : Remembers history watchdog) (byte : UInt8) :
    Remembers (.keyWritten byte :: history) (watchdog.writeKey byte).next where
  key := rfl
  count := by
    unfold writeKey
    dsimp only
    rw [remembers.completes_eq byte]
    cases served : serves (.keyWritten byte) history with
    | true =>
      rw [unserved_of_serves served, if_pos rfl, UInt32.toNat_and, Nat.and_mod_two_pow]
      exact Nat.and_zero _
    | false =>
      have free : (WatchdogEvent.keyWritten byte).cycles = 0 := rfl
      rw [unserved_of_not WatchdogEvent.noConfusion served, free, Nat.zero_add,
        if_neg Bool.false_ne_true, remembers.count]

theorem Remembers.charged (fitted : kinds.programmable = true)
    (remembers : Remembers history watchdog) (cycles : Nat) :
    Remembers (.charged cycles :: history) (watchdog.advance kinds cycles).next where
  key := remembers.key
  count := by
    have count := remembers.count
    rw [programmableCount_advance fitted, unserved_of_not WatchdogEvent.noConfusion rfl,
      WatchdogEvent.cycles, programmableRange]
    omega

/-- The registers go on remembering in every event. -/
theorem Remembers.turn (fitted : kinds.programmable = true)
    (remembers : Remembers history watchdog) (event : WatchdogEvent) :
    Remembers (event :: history) (watchdog.turn kinds event) := by
  cases event with
  | power => exact ⟨rfl, rfl⟩
  | charged cycles => exact remembers.charged fitted cycles
  | keyWritten byte => exact remembers.keyWritten byte
  | controlRead access =>
    cases access with
    | program => exact remembers.pass WatchdogEvent.noConfusion rfl rfl rfl rfl rfl
    | debugger => exact remembers.pass WatchdogEvent.noConfusion rfl rfl rfl rfl rfl
  | clearWritten byte =>
    unfold Watchdog.turn writeClear
    dsimp only
    split
    · exact remembers.pass WatchdogEvent.noConfusion rfl rfl rfl rfl rfl
    · exact remembers.pass WatchdogEvent.noConfusion rfl rfl rfl rfl rfl
  | _ => exact remembers.pass WatchdogEvent.noConfusion rfl rfl rfl rfl rfl

theorem Remembers.replay (fitted : kinds.programmable = true)
    (remembers : Remembers history watchdog) (events : List WatchdogEvent) :
    Remembers (events.reverse ++ history) (watchdog.replay kinds events) := by
  induction events generalizing history watchdog with
  | nil => exact remembers
  | cons event events ih =>
    rw [List.reverse_cons, List.append_assoc]
    exact ih (remembers.turn fitted event)

/-! ## Not too early -/

/-- No timeout comes before the shortest period has passed since the last service. -/
theorem Remembers.unserved_of_runsOut (fitted : kinds.programmable = true)
    (remembers : Remembers history watchdog) {cycles : Nat}
    (out : watchdog.programmableRunsOut kinds cycles = true) :
    2 ^ 15 ≤ unserved history + cycles := by
  have reached := ((runsOut_iff fitted cycles).mp out).2
  have count := remembers.count
  have below := Nat.mod_lt watchdog.programmableCount.toNat watchdog.timeout_pos
  have low : watchdog.programmableCount.toNat % watchdog.timeout % 2 ^ 15 =
      watchdog.programmableCount.toNat % 2 ^ 15 :=
    Nat.mod_mod_of_dvd _ ⟨_, watchdog.timeout_eq⟩
  rw [timeout_eq] at reached below low
  omega

/-! ## Not too late -/

/-- The programmable watchdog is armed and has a period. -/
structure Guards (selection : UInt8) (watchdog : Watchdog) : Prop where
  armed : watchdog.control &&& armed ≠ 0
  period : watchdog.control &&& period = selection

theorem Guards.timeout (guards : Guards selection watchdog) :
    watchdog.timeout = 2 ^ (15 + 2 * selection.toNat) := by
  unfold Watchdog.timeout
  rw [Nat.one_shiftLeft, guards.period]

/-- Raising or clearing other bits of the control register leaves the watchdog on guard. -/
theorem Guards.of_control (guards : Guards selection watchdog) {after : Watchdog}
    (armed : after.control &&& Watchdog.armed = watchdog.control &&& Watchdog.armed)
    (period : after.control &&& Watchdog.period = watchdog.control &&& Watchdog.period) :
    Guards selection after :=
  ⟨armed ▸ guards.armed, period.trans guards.period⟩

theorem Guards.turn (guards : Guards selection watchdog)
    (keeps : event.keepsPeriod selection = true) :
    Guards selection (watchdog.turn kinds event) := by
  cases event with
  | power => cases keeps
  | reset => cases keeps
  | charged cycles =>
    exact guards.of_control (control_advance (by decide) cycles) (control_advance (by decide) cycles)
  | keyWritten byte => exact guards.of_control rfl rfl
  | controlWritten byte =>
    exact ⟨armed_writeControl guards.armed byte,
      (watchdog.period_writeControl byte).trans (of_decide_eq_true keeps)⟩
  | controlRead access =>
    exact guards.of_control (control_readControl (by decide) access)
      (control_readControl (by decide) access)
  | clearWritten byte =>
    exact guards.of_control (congrArg (· &&& _) (control_writeClear byte))
      (congrArg (· &&& _) (control_writeClear byte))
  | switched enabled => exact guards.of_control rfl rfl

/-- Without a timeout and without a service, the count modulo the period grows by the cycles that
are charged. -/
theorem count_turn (fitted : kinds.programmable = true) (remembers : Remembers history watchdog)
    (keeps : event.keepsPeriod selection = true) (idle : serves event history = false)
    (goes : ∀ cycles, event = .charged cycles →
      watchdog.programmableCount.toNat % watchdog.timeout + cycles < watchdog.timeout) :
    (watchdog.turn kinds event).programmableCount.toNat % watchdog.timeout =
      watchdog.programmableCount.toNat % watchdog.timeout + event.cycles := by
  cases event with
  | power => cases keeps
  | charged cycles =>
    have below := goes cycles rfl
    unfold Watchdog.turn
    dsimp only
    rw [programmableCount_advance fitted, Nat.mod_mod_of_dvd _ watchdog.timeout_dvd,
      ← Nat.mod_add_mod, Nat.mod_eq_of_lt below]
    rfl
  | keyWritten byte =>
    unfold Watchdog.turn writeKey
    dsimp only
    rw [remembers.completes_eq byte, idle, if_neg Bool.false_ne_true]
    rfl
  | controlRead access =>
    cases access with
    | program => rfl
    | debugger => rfl
  | clearWritten byte =>
    unfold Watchdog.turn writeClear
    dsimp only
    split
    · rfl
    · rfl
  | _ => rfl

/-- An armed watchdog that keeps its period and is not served runs out before as many cycles as the
period has are charged. -/
theorem exists_runsOut (fitted : kinds.programmable = true) {stretch : List WatchdogEvent}
    (remembers : Remembers history watchdog) (guards : Guards selection watchdog)
    (keeps : ∀ event ∈ stretch, event.keepsPeriod selection = true)
    (idle : ∀ early event late, stretch = early ++ event :: late →
      serves event (early.reverse ++ history) = false)
    (enough : watchdog.timeout ≤
      watchdog.programmableCount.toNat % watchdog.timeout + total stretch) :
    ∃ early cycles late, stretch = early ++ .charged cycles :: late ∧
      (watchdog.replay kinds early).programmableRunsOut kinds cycles = true := by
  induction stretch generalizing history watchdog with
  | nil =>
    exact absurd enough (Nat.not_le.mpr (Nat.mod_lt _ watchdog.timeout_pos))
  | cons event stretch ih =>
    by_cases out : ∃ cycles, event = .charged cycles ∧
        watchdog.programmableRunsOut kinds cycles = true
    · obtain ⟨cycles, rfl, out⟩ := out
      exact ⟨[], cycles, stretch, rfl, out⟩
    · have kept := keeps event List.mem_cons_self
      have guarding : Guards selection (watchdog.turn kinds event) := guards.turn kept
      have same : (watchdog.turn kinds event).timeout = watchdog.timeout :=
        guarding.timeout.trans guards.timeout.symm
      have goes (cycles : Nat) (charged : event = .charged cycles) :
          watchdog.programmableCount.toNat % watchdog.timeout + cycles < watchdog.timeout :=
        Nat.not_le.mp fun reached =>
          out ⟨cycles, charged, (runsOut_iff fitted cycles).mpr ⟨guards.armed, reached⟩⟩
      have grown := count_turn fitted remembers kept (idle [] event stretch rfl) goes
      obtain ⟨early, cycles, late, split, out⟩ := ih (remembers.turn fitted event) guarding
        (fun other member => keeps other (List.mem_cons_of_mem event member))
        (fun early other late split => by
          have idle := idle (event :: early) other late (congrArg (event :: ·) split)
          rw [List.reverse_cons, List.append_assoc] at idle
          exact idle)
        (by
          rw [same, grown, Nat.add_assoc, ← total_cons]
          exact enough)
      exact ⟨event :: early, cycles, late, congrArg (event :: ·) split, out⟩

/-! ## The window -/

/-- After power-on, whatever happens to the watchdogs, the programmable one runs out only if the
cycles since it was last served, or since power-on if it was not, are at least as many as the
shortest period has. And wherever it is armed, it runs out in every stretch of events that keeps the
period, has no service and charges as many cycles as the period has: one of the charges asks for a
reset, remarks the timeout and raises the timeout flag. -/
theorem service_window (watchdog : Watchdog) (fixed : Bool) (past : List WatchdogEvent) :
    let kinds : WatchdogKinds := ⟨true, fixed⟩
    let present := watchdog.powerOn.replay kinds past
    (∀ cycles, .remark .programmableTimeout ∈ (present.advance kinds cycles).report →
      2 ^ 15 ≤ unserved past.reverse + cycles) ∧
    (∀ (selection : UInt8) (stretch : List WatchdogEvent),
      present.control &&& armed ≠ 0 → present.control &&& period = selection →
      (∀ event ∈ stretch, event.keepsPeriod selection = true) →
      (∀ early event late, stretch = early ++ event :: late →
        serves event (early.reverse ++ past.reverse) = false) →
      2 ^ (15 + 2 * selection.toNat) ≤ total stretch →
      ∃ early cycles late, stretch = early ++ .charged cycles :: late ∧
        let out := (present.replay kinds early).advance kinds cycles
        out.value = true ∧ .remark .programmableTimeout ∈ out.report ∧
          out.next.control &&& timeoutFlag ≠ 0) := by
  intro kinds present
  have fitted : kinds.programmable = true := rfl
  have begun : Remembers [] watchdog.powerOn := ⟨rfl, rfl⟩
  have remembers : Remembers past.reverse present := by
    have replayed := begun.replay fitted past
    rw [List.append_nil] at replayed
    exact replayed
  constructor
  · intro cycles timedOut
    exact remembers.unserved_of_runsOut fitted ((programmableTimeout_mem_iff cycles).mp timedOut)
  · intro selection stretch up selected keeps idle enough
    have guards : Guards selection present := ⟨up, selected⟩
    have crossed : present.timeout ≤
        present.programmableCount.toNat % present.timeout + total stretch := by
      rw [guards.timeout]
      exact Nat.le_add_left_of_le enough
    obtain ⟨early, cycles, late, split, out⟩ :=
      exists_runsOut fitted remembers guards keeps idle crossed
    refine ⟨early, cycles, late, split, ?_, (programmableTimeout_mem_iff cycles).mpr out,
      (timeoutFlag_advance_iff _ kinds cycles).mpr (.inl out)⟩
    unfold advance
    dsimp only
    rw [out, Bool.true_or]

/-- A watchdog is armed with the second period and served late in the first one. Then the shortest
period passes without a timeout, and the second charge after the service lets it run out. -/
theorem service_window_of_served :
    let kinds : WatchdogKinds := ⟨true, true⟩
    let past : List WatchdogEvent :=
      [.controlWritten 0x05, .charged 30000, .keyWritten 0x55, .keyWritten 0xAA]
    let stretch : List WatchdogEvent := [.charged 100000, .controlRead .program, .charged 40000]
    let present := initial.powerOn.replay kinds past
    .remark .programmableTimeout ∉ (present.advance kinds 32767).report ∧
      present.control &&& armed ≠ 0 ∧ present.control &&& period = 0x01 ∧
      2 ^ 17 ≤ total stretch ∧
      ∃ early cycles late, stretch = early ++ .charged cycles :: late ∧
        ((present.replay kinds early).advance kinds cycles).value = true := by
  intro kinds past stretch present
  obtain ⟨notEarly, notLate⟩ := service_window initial true past
  have up : present.control &&& armed ≠ 0 := by decide
  have selected : present.control &&& period = 0x01 := by decide
  have keeps : ∀ event ∈ stretch, event.keepsPeriod 0x01 = true := by decide
  have keyless : ∀ event ∈ stretch, event ≠ .keyWritten 0xAA := by decide
  have idle (early : List WatchdogEvent) (event : WatchdogEvent) (late : List WatchdogEvent)
      (split : stretch = early ++ event :: late) :
      serves event (early.reverse ++ past.reverse) = false :=
    serves_of_ne (keyless event (split ▸ List.mem_append_right early List.mem_cons_self)) _
  obtain ⟨early, cycles, late, split, resets, -, -⟩ :=
    notLate 0x01 stretch up selected keeps idle (by decide)
  refine ⟨fun timedOut => ?_, up, selected, by decide, early, cycles, late, split, resets⟩
  exact absurd (notEarly 32767 timedOut) (by decide)

end Watchdog
end M68HC05
