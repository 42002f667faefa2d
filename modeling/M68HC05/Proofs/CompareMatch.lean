import Mathlib.Algebra.GroupWithZero.Nat
import M68HC05.Proofs.Bits
import M68HC05.Timer

/-!
The compare register against the counter. The counter is a word that goes round, so the values that
it passes in an advance (`Timer.passed`) are to be taken modulo 2^16. The compare flag does not
follow them all: the range that is tested ends at the top of the counter, and a compare register
that the counter reaches on its way up from zero in the same advance is missed
(`Timer.MatchesLate`). Advances that do not roll over so far put out a compare exactly as the passed
values say.

The main statement is `Timer.compares_as_passed_iff`.
-/

namespace M68HC05

/-- The level that an entry puts out on the compare pin, if it does. -/
def Entry.compareOutput? : Entry → Option Bool
  | .signal (.compareOutput level) => some level
  | _ => none

namespace Timer

variable (timer : Timer) (cycles : Nat)

/-- The values of the counter in the next `cycles`, in order. -/
def passed : List UInt16 :=
  (List.range (timer.increments cycles)).map fun k => timer.counter + UInt16.ofNat (k + 1)

/-- The counter reaches the compare register in the next `cycles` after it has rolled over. -/
def MatchesLate : Prop :=
  0x10000 + timer.compare.toNat ≤ timer.counter.toNat + timer.increments cycles

instance : Decidable (timer.MatchesLate cycles) :=
  inferInstanceAs (Decidable (_ ≤ _))

/-- A value is passed if the counter gets there, on the way up or after rolling over. -/
theorem mem_passed_iff (few : timer.increments cycles < 0x10000) (value : UInt16) :
    value ∈ timer.passed cycles ↔
      (timer.counter.toNat < value.toNat ∧
        value.toNat ≤ timer.counter.toNat + timer.increments cycles) ∨
      0x10000 + value.toNat ≤ timer.counter.toNat + timer.increments cycles := by
  have start := timer.counter.toNat_lt
  have bound := value.toNat_lt
  have place (k : Nat) : (timer.counter + UInt16.ofNat (k + 1)).toNat =
      (timer.counter.toNat + (k + 1)) % 0x10000 := by
    rw [UInt16.toNat_add, UInt16.toNat_ofNat', Nat.add_mod_mod]
  unfold passed
  rw [List.mem_map]
  constructor
  · rintro ⟨k, inside, rfl⟩
    rw [List.mem_range] at inside
    rw [place]
    omega
  · rintro (⟨above, reached⟩ | reached)
    · refine ⟨value.toNat - timer.counter.toNat - 1, List.mem_range.mpr (by omega), ?_⟩
      apply UInt16.toNat_inj.mp
      rw [place]
      omega
    · refine ⟨0x10000 + value.toNat - timer.counter.toNat - 1, List.mem_range.mpr (by omega), ?_⟩
      apply UInt16.toNat_inj.mp
      rw [place]
      omega

/-- The match that the timer sees is that of a value passed before the rollover. -/
theorem reachesCompare_iff (few : timer.increments cycles < 0x10000) :
    timer.reachesCompare cycles = true ↔
      timer.compare ∈ timer.passed cycles ∧ ¬ timer.MatchesLate cycles := by
  have start := timer.counter.toNat_lt
  rw [mem_passed_iff timer cycles few, reachesCompare, MatchesLate, Bool.and_eq_true,
    decide_eq_true_eq, decide_eq_true_eq, UInt16.lt_iff_toNat_lt]
  omega

/-! ## What a match does -/

/-- The compare flag rises at a match that is not held off. -/
theorem compareFlag_advance_iff :
    (timer.advance cycles).next.status &&& compareFlag ≠ 0 ↔
      timer.status &&& compareFlag ≠ 0 ∨
        timer.reachesCompare cycles = true ∧ timer.compareInhibited = false := by
  have raised : timer.raised cycles &&& compareFlag ≠ 0 ↔
      timer.reachesCompare cycles = true ∧ timer.compareInhibited = false := by
    have apart : (if timer.rollsOver cycles then rolloverFlag else 0) &&& compareFlag = 0 := by
      split
      · decide
      · decide
    unfold Timer.raised
    rw [or_and_right8, apart, UInt8.zero_or, ← Bool.not_eq_true]
    split
    · rename_i fires
      exact iff_of_true (by decide) fires
    · rename_i idle
      exact iff_of_false (by decide) idle
  change (timer.status ||| timer.raised cycles) &&& compareFlag ≠ 0 ↔ _
  rw [or_and_right8, Ne, UInt8.or_eq_zero_iff, not_and_or]
  exact or_congr_right raised

/-- A match that is not held off puts out one level. -/
theorem compareOutputs_advance :
    (timer.advance cycles).report.filterMap Entry.compareOutput? =
      if timer.reachesCompare cycles = true ∧ timer.compareInhibited = false then
        [decide (timer.control &&& outputLevel ≠ 0)]
      else [] := by
  have rollover : (if timer.rollsOver cycles then [Entry.remark .counterRolledOver] else
      []).filterMap Entry.compareOutput? = [] := by
    split
    · rfl
    · rfl
  unfold advance
  dsimp only
  rw [List.filterMap_append, rollover, List.nil_append]
  cases timer.reachesCompare cycles with
  | false => rfl
  | true =>
    cases timer.compareInhibited with
    | false => rfl
    | true => rfl

/-- In an advance the compare goes by the values that the counter passes: the flag rises and the
output level is put out, once, exactly if the compare register is passed and not held off. -/
structure ComparesAsPassed : Prop where
  flag : (timer.advance cycles).next.status &&& compareFlag ≠ 0 ↔
    timer.status &&& compareFlag ≠ 0 ∨
      timer.compare ∈ timer.passed cycles ∧ timer.compareInhibited = false
  outputs : (timer.advance cycles).report.filterMap Entry.compareOutput? =
    if timer.compare ∈ timer.passed cycles ∧ timer.compareInhibited = false then
      [decide (timer.control &&& outputLevel ≠ 0)]
    else []

/-- In an advance of less than a round of the counter, the compare flag rises and the output level is
put out, once, exactly if the counter passes the compare register before it rolls over and the
compare is not held off. So the compare goes by the values passed exactly if it is held off or its
register is not reached after a rollover in the same advance. -/
theorem compares_as_passed_iff (few : timer.increments cycles < 0x10000) :
    let fires := (timer.compare ∈ timer.passed cycles ∧ ¬ timer.MatchesLate cycles) ∧
      timer.compareInhibited = false
    ((timer.advance cycles).next.status &&& compareFlag ≠ 0 ↔
      timer.status &&& compareFlag ≠ 0 ∨ fires) ∧
    (timer.advance cycles).report.filterMap Entry.compareOutput? =
      (if fires then [decide (timer.control &&& outputLevel ≠ 0)] else []) ∧
    (timer.ComparesAsPassed cycles ↔
      ¬ (timer.MatchesLate cycles ∧ timer.compareInhibited = false)) := by
  intro fires
  have reaches := timer.reachesCompare_iff cycles few
  have flag := timer.compareFlag_advance_iff cycles
  have outputs := timer.compareOutputs_advance cycles
  simp only [reaches] at flag outputs
  refine ⟨flag, outputs, fun asPassed => ?_, fun punctual => ?_⟩
  · rintro ⟨late, free⟩
    have passes : timer.compare ∈ timer.passed cycles :=
      (timer.mem_passed_iff cycles few timer.compare).mpr (.inr late)
    have missed := asPassed.outputs
    rw [outputs, if_neg fun fires => fires.1.2 late, if_pos ⟨passes, free⟩] at missed
    cases missed
  · have same : fires ↔ timer.compare ∈ timer.passed cycles ∧ timer.compareInhibited = false :=
      ⟨fun fires => ⟨fires.1.1, fires.2⟩,
        fun due => ⟨⟨due.1, fun late => punctual ⟨late, due.2⟩⟩, due.2⟩⟩
    exact {
      flag := flag.trans (or_congr_right same)
      outputs := outputs.trans (if_congr same rfl rfl) }

/-- A counter that rolls over, and passes the compare register before that. -/
theorem compares_as_passed_iff_near_end :
    let timer := { initial with counter := 0xFFFC, compare := 0xFFFE }
    timer.increments 64 < 0x10000 ∧ timer.ComparesAsPassed 64 ∧
      (timer.advance 64).next.status &&& compareFlag ≠ 0 := by
  intro timer
  have few : timer.increments 64 < 0x10000 := by decide
  obtain ⟨flag, -, asPassed⟩ := compares_as_passed_iff timer 64 few
  have fires : (timer.compare ∈ timer.passed 64 ∧ ¬ timer.MatchesLate 64) ∧
    timer.compareInhibited = false := by decide
  exact ⟨few, asPassed.mpr fun late => fires.1.2 late.1, flag.mpr (.inr fires)⟩

/-- A timer after reset, with a compare register of zero, rolls over in its first 64 cycles. The
counter passes zero, and the compare is missed. -/
theorem compare_missed_after_rollover :
    let timer := initial.powerOn.reset
    timer.prescaler.toNat ≤ 15 ∧ timer.increments 64 < 0x10000 ∧
      timer.compareInhibited = false ∧ timer.compare ∈ timer.passed 64 ∧
      (timer.advance 64).next.status &&& compareFlag = 0 ∧
      (timer.advance 64).report.filterMap Entry.compareOutput? = [] := by
  decide

end Timer
end M68HC05
