import M68HC05.Proofs.PeripheralRange
import M68HC05.Proofs.ServiceWindow

/-!
Cycles charged in portions. The timer with its divider and each of the two watchdogs are counters
of some range, and a counter passes its end in one of several portions of cycles exactly if it
passes it in all of them at once (`passesEnd_add`). So it does not matter for them how the cycles of
an instruction or of an interrupt are split up. The compare flag of the timer is another matter: a
compare is missed by a portion that goes past the end of the counter.

The main statement is `advance_portions`.
-/

namespace M68HC05

/-! ## Counters -/

/-- A counter that is compared modulo a range passes the end of it in the next cycles. -/
def passesEnd (range count cycles : Nat) : Bool :=
  range ≤ count % range + cycles

theorem passesEnd_zero {range : Nat} (positive : 0 < range) (count : Nat) :
    passesEnd range count 0 = false :=
  decide_eq_false (Nat.not_le.mpr (Nat.mod_lt count positive))

/-- A count that wraps after some whole ranges is as good as the count itself. -/
theorem passesEnd_mod {range whole : Nat} (divides : range ∣ whole) (count cycles : Nat) :
    passesEnd range (count % whole) cycles = passesEnd range count cycles := by
  unfold passesEnd
  rw [Nat.mod_mod_of_dvd count divides]

/-- The end is passed in two portions if it is passed in the first, or in the second from where the
first has led. -/
theorem passesEnd_add (range count first second : Nat) :
    passesEnd range count (first + second) =
      (passesEnd range count first || passesEnd range (count + first) second) := by
  have moved : (count + first) % range = (count % range + first) % range :=
    (Nat.mod_add_mod count range first).symm
  unfold passesEnd
  rw [moved, ← Bool.decide_or, decide_eq_decide]
  by_cases early : range ≤ count % range + first
  · exact iff_of_true (by omega) (.inl early)
  · -- the first portion does not take the count round
    have stays : (count % range + first) % range = count % range + first :=
      Nat.mod_eq_of_lt (Nat.not_le.mp early)
    rw [stays, Nat.add_assoc, or_iff_right early]

/-- A flag that is raised on either of two occasions. -/
theorem raised_or (flag : UInt8) (first second : Bool) :
    (if (first || second) = true then flag else 0) =
      (if first = true then flag else 0) ||| if second = true then flag else 0 := by
  cases first with
  | false => exact UInt8.zero_or.symm
  | true =>
    cases second with
    | false => exact UInt8.or_zero.symm
    | true => exact UInt8.or_self.symm

/-! ## The timer -/

namespace Timer

/-- Cycles in which the counter goes round. -/
def revolution : Nat := divider * 0x10000

/-- The cycles that the divider and the counter together have counted. -/
def position (timer : Timer) : Nat :=
  divider * timer.counter.toNat + timer.prescaler.toNat

/-- The timer after some portions of cycles, one after the other. -/
def advanceEach (timer : Timer) (portions : List Nat) : Timer :=
  portions.foldl (fun timer cycles => (timer.advance cycles).next) timer

variable {timer : Timer}

theorem position_lt (divided : timer.prescaler.toNat < divider) : timer.position < revolution := by
  have counter := timer.counter.toNat_lt
  unfold position revolution divider at *
  omega

theorem prescaler_advance_lt (timer : Timer) (cycles : Nat) :
    (timer.advance cycles).next.prescaler.toNat < divider := by
  change (UInt8.ofNat ((cycles + timer.prescaler.toNat % divider) % divider)).toNat < divider
  rw [UInt8.toNat_ofNat']
  unfold divider
  omega

theorem position_advance (divided : timer.prescaler.toNat < divider) (cycles : Nat) :
    (timer.advance cycles).next.position = (timer.position + cycles) % revolution := by
  change divider * (UInt16.ofNat (timer.counter.toNat + timer.increments cycles)).toNat +
    (UInt8.ofNat ((cycles + timer.prescaler.toNat % divider) % divider)).toNat = _
  rw [UInt16.toNat_ofNat', UInt8.toNat_ofNat']
  unfold position revolution increments divider at *
  omega

theorem rollsOver_eq (divided : timer.prescaler.toNat < divider) (cycles : Nat) :
    timer.rollsOver cycles = passesEnd revolution timer.position cycles := by
  have small := position_lt divided
  unfold rollsOver passesEnd
  rw [Nat.mod_eq_of_lt small, decide_eq_decide]
  unfold position revolution increments divider at *
  omega

/-- The divider and the counter can be told from the cycles they have counted. -/
theorem eq_of_position {other : Timer} (divided : timer.prescaler.toNat < divider)
    (divided' : other.prescaler.toNat < divider) (same : timer.position = other.position) :
    timer.counter = other.counter ∧ timer.prescaler = other.prescaler := by
  unfold position divider at *
  refine ⟨UInt16.toNat_inj.mp ?_, UInt8.toNat_inj.mp ?_⟩
  · omega
  · omega

theorem prescaler_advanceEach (divided : timer.prescaler.toNat < divider) (portions : List Nat) :
    (timer.advanceEach portions).prescaler.toNat < divider := by
  induction portions generalizing timer with
  | nil => exact divided
  | cons cycles portions ih => exact ih (timer.prescaler_advance_lt cycles)

theorem position_advanceEach (divided : timer.prescaler.toNat < divider) (portions : List Nat) :
    (timer.advanceEach portions).position = (timer.position + portions.sum) % revolution := by
  induction portions generalizing timer with
  | nil => exact (Nat.mod_eq_of_lt (position_lt divided)).symm
  | cons cycles portions ih =>
    have rest := ih (timer.prescaler_advance_lt cycles)
    rw [position_advance divided, Nat.mod_add_mod, Nat.add_assoc, ← List.sum_cons] at rest
    exact rest

theorem rollsOver_add (divided : timer.prescaler.toNat < divider) (first second : Nat) :
    timer.rollsOver (first + second) =
      (timer.rollsOver first || (timer.advance first).next.rollsOver second) := by
  rw [rollsOver_eq divided, rollsOver_eq divided, rollsOver_eq (timer.prescaler_advance_lt first),
    position_advance divided, passesEnd_mod (Nat.dvd_refl revolution), passesEnd_add]

theorem rollsOver_zero (divided : timer.prescaler.toNat < divider) : timer.rollsOver 0 = false := by
  rw [rollsOver_eq divided]
  exact passesEnd_zero (by decide) timer.position

/-- The rollover flag is raised if the counter rolls over; a compare raises another one. -/
theorem rolloverFlag_advance (timer : Timer) (cycles : Nat) :
    (timer.advance cycles).next.status &&& rolloverFlag =
      timer.status &&& rolloverFlag ||| if timer.rollsOver cycles then rolloverFlag else 0 := by
  change (timer.status ||| timer.raised cycles) &&& rolloverFlag = _
  rw [or_and_right8, raised, or_and_right8]
  have apart : (if timer.reachesCompare cycles ∧ ¬ timer.compareInhibited then compareFlag else 0)
      &&& rolloverFlag = 0 := by
    split
    · decide
    · decide
  rw [apart, UInt8.or_zero]
  split
  · rfl
  · rfl

theorem rolloverFlag_advanceEach (divided : timer.prescaler.toNat < divider) (portions : List Nat) :
    (timer.advanceEach portions).status &&& rolloverFlag =
      timer.status &&& rolloverFlag |||
        if timer.rollsOver portions.sum then rolloverFlag else 0 := by
  induction portions generalizing timer with
  | nil =>
    rw [List.sum_nil, rollsOver_zero divided]
    exact UInt8.or_zero.symm
  | cons cycles portions ih =>
    have rest := ih (timer.prescaler_advance_lt cycles)
    rw [rolloverFlag_advance, UInt8.or_assoc, ← raised_or, ← rollsOver_add divided] at rest
    rw [List.sum_cons]
    exact rest

end Timer

/-! ## The watchdogs -/

namespace Watchdog

/-- The watchdogs after some portions of cycles, one after the other. -/
def advanceEach (kinds : WatchdogKinds) (watchdog : Watchdog) (portions : List Nat) : Watchdog :=
  portions.foldl (fun watchdog cycles => (watchdog.advance kinds cycles).next) watchdog

/-- What each of some portions of cycles is answered: a watchdog asks for a reset, or not. -/
def answers (kinds : WatchdogKinds) : Watchdog → List Nat → List Bool
  | _, [] => []
  | watchdog, cycles :: portions =>
    (watchdog.advance kinds cycles).value ::
      answers kinds (watchdog.advance kinds cycles).next portions

variable {kinds : WatchdogKinds} {watchdog : Watchdog}

theorem timeout_advance (watchdog : Watchdog) (cycles : Nat) :
    (watchdog.advance kinds cycles).next.timeout = watchdog.timeout := by
  unfold timeout
  rw [control_advance (by decide)]

theorem programmableRunsOut_eq (watchdog : Watchdog) (kinds : WatchdogKinds) (cycles : Nat) :
    watchdog.programmableRunsOut kinds cycles =
      (kinds.programmable && watchdog.control &&& armed ≠ 0 &&
        passesEnd watchdog.timeout watchdog.programmableCount.toNat cycles) :=
  rfl

/-- The range of the programmable count is a multiple of the period, so the count may wrap between
two portions. -/
theorem programmableRunsOut_add (watchdog : Watchdog) (kinds : WatchdogKinds) (first second : Nat) :
    watchdog.programmableRunsOut kinds (first + second) =
      (watchdog.programmableRunsOut kinds first ||
        (watchdog.advance kinds first).next.programmableRunsOut kinds second) := by
  rw [programmableRunsOut_eq, programmableRunsOut_eq, programmableRunsOut_eq, timeout_advance,
    control_advance (by decide), passesEnd_add, Bool.and_or_distrib_left]
  by_cases fitted : kinds.programmable = true
  · rw [programmableCount_advance fitted, passesEnd_mod watchdog.timeout_dvd]
  · rw [Bool.eq_false_iff.mpr fitted]
    simp only [Bool.false_and, Bool.or_false]

theorem fixedRunsOut_eq (range : watchdog.InRange) (kinds : WatchdogKinds) (cycles : Nat) :
    watchdog.fixedRunsOut kinds cycles = (kinds.fixed && watchdog.fixedEnabled &&
      passesEnd fixedRange watchdog.fixedCount.toNat cycles) := by
  unfold fixedRunsOut passesEnd
  rw [Nat.mod_eq_of_lt range.fixedCount]

theorem fixedRunsOut_add (range : watchdog.InRange) (kinds : WatchdogKinds) (first second : Nat) :
    watchdog.fixedRunsOut kinds (first + second) =
      (watchdog.fixedRunsOut kinds first ||
        (watchdog.advance kinds first).next.fixedRunsOut kinds second) := by
  have enabled : (watchdog.advance kinds first).next.fixedEnabled = watchdog.fixedEnabled := rfl
  rw [fixedRunsOut_eq range, fixedRunsOut_eq range, fixedRunsOut_eq (range.advance kinds first),
    enabled, passesEnd_add, Bool.and_or_distrib_left]
  by_cases counts : (kinds.fixed && watchdog.fixedEnabled) = true
  · rw [fixedCount_advance counts, passesEnd_mod (Nat.dvd_refl fixedRange)]
  · rw [Bool.eq_false_iff.mpr counts, Bool.false_and, Bool.false_and, Bool.false_and]

theorem control_advance_eq (watchdog : Watchdog) (kinds : WatchdogKinds) (cycles : Nat) :
    (watchdog.advance kinds cycles).next.control = watchdog.control |||
      if watchdog.programmableRunsOut kinds cycles = true then timeoutFlag else 0 := by
  unfold advance
  dsimp only
  split
  · rfl
  · exact UInt8.or_zero.symm

theorem programmableCount_add (watchdog : Watchdog) (kinds : WatchdogKinds) (first second : Nat) :
    ((watchdog.advance kinds first).next.advance kinds second).next.programmableCount =
      (watchdog.advance kinds (first + second)).next.programmableCount := by
  unfold advance
  dsimp only
  by_cases fitted : kinds.programmable = true
  · rw [if_pos fitted, if_pos fitted, if_pos fitted]
    exact counted_add (by decide) (by decide) watchdog.programmableCount first second
  · rw [if_neg fitted, if_neg fitted, if_neg fitted]

theorem fixedCount_add (watchdog : Watchdog) (kinds : WatchdogKinds) (first second : Nat) :
    ((watchdog.advance kinds first).next.advance kinds second).next.fixedCount =
      (watchdog.advance kinds (first + second)).next.fixedCount := by
  unfold advance
  dsimp only
  by_cases counts : (kinds.fixed && watchdog.fixedEnabled) = true
  · rw [if_pos counts, if_pos counts, if_pos counts]
    exact counted_add (by decide) (by decide) watchdog.fixedCount first second
  · rw [if_neg counts, if_neg counts, if_neg counts]

/-- Two portions leave the registers as their sum does. -/
theorem advance_add (watchdog : Watchdog) (kinds : WatchdogKinds) (first second : Nat) :
    ((watchdog.advance kinds first).next.advance kinds second).next =
      (watchdog.advance kinds (first + second)).next := by
  have control : ((watchdog.advance kinds first).next.advance kinds second).next.control =
      (watchdog.advance kinds (first + second)).next.control := by
    rw [control_advance_eq, control_advance_eq, control_advance_eq, UInt8.or_assoc, ← raised_or,
      ← programmableRunsOut_add]
  exact (Watchdog.mk.injEq ..).mpr ⟨watchdog.programmableCount_add kinds first second,
    watchdog.fixedCount_add kinds first second, rfl, control, rfl⟩

/-- The answer to the sum is a request if the answer to either portion is one. -/
theorem value_add (range : watchdog.InRange) (kinds : WatchdogKinds) (first second : Nat) :
    (watchdog.advance kinds (first + second)).value =
      ((watchdog.advance kinds first).value ||
        ((watchdog.advance kinds first).next.advance kinds second).value) := by
  change (watchdog.programmableRunsOut kinds (first + second) ||
    watchdog.fixedRunsOut kinds (first + second)) = _
  rw [programmableRunsOut_add, fixedRunsOut_add range]
  change _ = ((watchdog.programmableRunsOut kinds first || watchdog.fixedRunsOut kinds first) ||
    ((watchdog.advance kinds first).next.programmableRunsOut kinds second ||
      (watchdog.advance kinds first).next.fixedRunsOut kinds second))
  ac_rfl

theorem programmableRunsOut_zero (watchdog : Watchdog) (kinds : WatchdogKinds) :
    watchdog.programmableRunsOut kinds 0 = false := by
  rw [programmableRunsOut_eq, passesEnd_zero watchdog.timeout_pos, Bool.and_false]

theorem fixedRunsOut_zero (range : watchdog.InRange) (kinds : WatchdogKinds) :
    watchdog.fixedRunsOut kinds 0 = false := by
  rw [fixedRunsOut_eq range, passesEnd_zero (by decide), Bool.and_false]

/-- No cycles change no register. -/
theorem advance_zero (range : watchdog.InRange) (kinds : WatchdogKinds) :
    (watchdog.advance kinds 0).next = watchdog := by
  have control : (watchdog.advance kinds 0).next.control = watchdog.control := by
    rw [control_advance_eq, programmableRunsOut_zero]
    exact UInt8.or_zero
  have programmable : (watchdog.advance kinds 0).next.programmableCount =
      watchdog.programmableCount :=
    ite_eq_right_iff.mpr fun _ => counted_zero range.programmableCount
  have fixed : (watchdog.advance kinds 0).next.fixedCount = watchdog.fixedCount :=
    ite_eq_right_iff.mpr fun _ => counted_zero range.fixedCount
  exact (Watchdog.mk.injEq ..).mpr ⟨programmable, fixed, rfl, control, rfl⟩

theorem advanceEach_eq (range : watchdog.InRange) (kinds : WatchdogKinds) (portions : List Nat) :
    watchdog.advanceEach kinds portions = (watchdog.advance kinds portions.sum).next := by
  induction portions generalizing watchdog with
  | nil => exact (advance_zero range kinds).symm
  | cons cycles portions ih =>
    rw [List.sum_cons, ← advance_add]
    exact ih (range.advance kinds cycles)

theorem request_mem_answers (range : watchdog.InRange) (kinds : WatchdogKinds)
    (portions : List Nat) : true ∈ answers kinds watchdog portions ↔
      (watchdog.advance kinds portions.sum).value = true := by
  induction portions generalizing watchdog with
  | nil =>
    have none : (watchdog.advance kinds 0).value = false := by
      change (watchdog.programmableRunsOut kinds 0 || watchdog.fixedRunsOut kinds 0) = false
      rw [programmableRunsOut_zero, fixedRunsOut_zero range, Bool.or_false]
    exact iff_of_false List.not_mem_nil (Bool.eq_false_iff.mp none)
  | cons cycles portions ih =>
    have rest := ih (range.advance kinds cycles)
    rw [answers, List.mem_cons, rest, List.sum_cons, value_add range, Bool.or_eq_true]
    exact or_congr_left eq_comm

end Watchdog

/-! ## Portions -/

/-- Cycles charged in portions and the sum of them charged at once leave the same counter, divider
and rollover flag of the timer and the same watchdogs, and a watchdog asks for a reset in one of the
portions exactly if it does in the sum. -/
theorem advance_portions {timer : Timer} {watchdog : Watchdog} (divided : timer.prescaler ≤ 15)
    (range : watchdog.InRange) (kinds : WatchdogKinds) (portions : List Nat) :
    let apart := timer.advanceEach portions
    let once := (timer.advance portions.sum).next
    (apart.counter = once.counter ∧ apart.prescaler = once.prescaler ∧
        apart.status &&& Timer.rolloverFlag = once.status &&& Timer.rolloverFlag) ∧
      watchdog.advanceEach kinds portions = (watchdog.advance kinds portions.sum).next ∧
      (true ∈ Watchdog.answers kinds watchdog portions ↔
        (watchdog.advance kinds portions.sum).value = true) := by
  intro apart once
  have small : timer.prescaler.toNat < Timer.divider :=
    Nat.lt_succ_of_le (UInt8.le_iff_toNat_le.mp divided)
  have position : apart.position = once.position :=
    (Timer.position_advanceEach small portions).trans
      (Timer.position_advance small portions.sum).symm
  obtain ⟨counter, prescaler⟩ := Timer.eq_of_position (Timer.prescaler_advanceEach small portions)
    (timer.prescaler_advance_lt portions.sum) position
  have flag : apart.status &&& Timer.rolloverFlag = once.status &&& Timer.rolloverFlag :=
    (Timer.rolloverFlag_advanceEach small portions).trans
      (timer.rolloverFlag_advance portions.sum).symm
  exact ⟨⟨counter, prescaler, flag⟩, Watchdog.advanceEach_eq range kinds portions,
    Watchdog.request_mem_answers range kinds portions⟩

/-- Both watchdogs and the counter of the timer are at their ends, and the cycles of an interrupt,
which go before those of its first instruction, are not enough for any of them. -/
theorem advance_portions_at_end :
    let timer : Timer := { Timer.initial with counter := 0xFFFF, prescaler := 1 }
    let watchdog : Watchdog := ⟨0x7FF5, 0x1FFF3, 0, Watchdog.armed, true⟩
    let apart := timer.advanceEach [10, 5]
    (apart.counter = 0 ∧ apart.prescaler = 0 ∧
        apart.status &&& Timer.rolloverFlag = Timer.rolloverFlag) ∧
      watchdog.advanceEach ⟨true, true⟩ [10, 5] = ⟨0x8004, 2, 0, 0x14, true⟩ ∧
      true ∈ Watchdog.answers ⟨true, true⟩ watchdog [10, 5] := by
  intro timer watchdog apart
  have divided : timer.prescaler ≤ 15 := by decide
  have range : watchdog.InRange := ⟨by decide, by decide, by decide⟩
  obtain ⟨⟨counter, prescaler, flag⟩, registers, request⟩ :=
    advance_portions divided range ⟨true, true⟩ [10, 5]
  exact ⟨⟨counter.trans (by decide), prescaler.trans (by decide), flag.trans (by decide)⟩,
    registers.trans (by decide), request.mpr (by decide)⟩

/-- The compare flag does depend on the portions: the first of these takes the counter round, and a
compare that lies behind its end is reached from there and not from before it. -/
example :
    let timer : Timer := { Timer.initial with counter := 0xFFFF, compare := 1 }
    (timer.advanceEach [16, 16]).status &&& Timer.compareFlag = Timer.compareFlag ∧
      (timer.advance 32).next.status &&& Timer.compareFlag = 0 := by
  decide

end M68HC05
