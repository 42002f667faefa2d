import Mathlib.Algebra.GroupWithZero.Nat
import M68HC05.Proofs.Congruence
import M68HC05.Proofs.RunEnd
import M68HC05.Proofs.WellFormed

/-!
Budgets of a device without marks. A run on such a device ends only when its cycles are used up, so
that two runs one after the other make the steps of one run on both budgets (`Device.runFor_add`):
what the first overruns is a debt that the second pays. The cycles that a run answers are those its
budget has lost (`Device.used_execute`).

The main statement is that budgets may be cut into slices (`Device.execute_slices`). A single grant
is cut off at the largest budget, so the slices must not add up to more; a device deep enough in
debt tells such slices from their sum (`Device.slices_outlast_a_cut_grant`).
-/

namespace M68HC05

open M68HC05.Action

namespace Device

/-! ## Devices without marks -/

/-- There is nothing that a run could stop at before its budget is used up. -/
structure Unmarked (device : Device) : Prop where
  breakpoints : device.breakpoints = []
  points : device.watches.points = []
  hit : device.watches.hit = none

/-- A device in the middle of a run without marks. -/
structure Undisturbed (device : Device) : Prop extends Unmarked device where
  breakpointHit : device.breakpointHit = false

theorem Unmarked.unwatched {device : Device} (unmarked : device.Unmarked) : device.Unwatched :=
  ⟨unmarked.points, unmarked.hit⟩

namespace Undisturbed

theorem of_same {before after : Device} (undisturbed : before.Undisturbed)
    (breakpoints : after.breakpoints = before.breakpoints)
    (watches : after.watches = before.watches)
    (breakpointHit : after.breakpointHit = before.breakpointHit) : after.Undisturbed := by
  obtain ⟨⟨noBreakpoints, noPoints, noHit⟩, goes⟩ := undisturbed
  exact ⟨⟨breakpoints.trans noBreakpoints, by rw [watches, noPoints], by rw [watches, noHit]⟩,
    breakpointHit.trans goes⟩

/-- A step disturbs nothing. -/
theorem step {device : Device} (undisturbed : device.Undisturbed) :
    (step device).2.Undisturbed := by
  have unwatched := Unwatched.step device undisturbed.unwatched
  exact ⟨⟨(breakpoints_step device).trans undisturbed.breakpoints, unwatched.points, unwatched.hit⟩,
    (breakpointHit_step device).trans undisturbed.breakpointHit⟩

end Undisturbed

/-! ## Runs without marks -/

/-- Without marks a run steps as long as there are cycles left. -/
theorem runFor_undisturbed {device : Device} (undisturbed : device.Undisturbed) (left : Int)
    (first : Bool) :
    runFor left first device =
      if 0 < left then runFor (left - (step device).1) false (step device).2
      else (left, device) := by
  have unhit := undisturbed.step.unwatched.hasHit
  rw [runFor, undisturbed.breakpoints]
  simp only [List.contains_nil, Bool.and_false, Bool.false_eq_true, if_false, unhit]

/-- Without breakpoints it is no matter whether a run begins or goes on. -/
theorem runFor_first {device : Device} (undisturbed : device.Undisturbed) (left : Int)
    (first other : Bool) :
    runFor left first device = runFor left other device := by
  rw [runFor_undisturbed undisturbed, runFor_undisturbed undisturbed]

/-- A run disturbs nothing. -/
theorem Undisturbed.runFor {device : Device} (undisturbed : device.Undisturbed) (left : Int)
    (first : Bool) : (runFor left first device).2.Undisturbed := by
  have cost := step_cycles_pos device
  rw [runFor_undisturbed undisturbed]
  split
  · exact undisturbed.step.runFor _ false
  · exact undisturbed
termination_by left.toNat
decreasing_by omega

/-- More cycles make a run go on where it would have ended. -/
theorem runFor_add {device : Device} (undisturbed : device.Undisturbed) (left : Int) {more : Int}
    (nonneg : 0 ≤ more) (first other : Bool) :
    runFor (left + more) first device =
      runFor ((runFor left first device).1 + more) other (runFor left first device).2 := by
  -- along the run on the smaller budget, whose steps the run on both makes too
  by_cases positive : 0 < left
  · have goes : 0 < left + more := by omega
    have cost := step_cycles_pos device
    have next := undisturbed.step
    rw [runFor_undisturbed undisturbed left, if_pos positive, runFor_undisturbed undisturbed,
      if_pos goes]
    have later := runFor_add next (left - (step device).1) nonneg false other
    rw [← later]
    congr 1
    omega
  · rw [runFor_undisturbed undisturbed left, if_neg positive]
    exact runFor_first undisturbed _ _ _
termination_by left.toNat
decreasing_by omega

/-- A run leaves what its steps do not cost, be it a debt. -/
theorem runFor_left {device : Device} (undisturbed : device.Undisturbed) (left : Int)
    (first : Bool) :
    (runFor left first device).1 = left - cost (courseFor left first device) :=
  ((runFor_ending left first undisturbed.breakpointHit).of_unmarked
    (undisturbed.runFor left first).breakpointHit).2

/-! ## The stored budget -/

/-- Nothing that a step does depends on the stored budget. -/
theorem budget_samePart (budget : Int64) :
    SamePart fun d e : Device => { d with budget } = e where
  variant related := by
    subst related
    rfl
  guest related := by
    subst related
    rfl
  withGuest guest related := by
    subst related
    rfl
  add entry related := by
    subst related
    rfl
  sample index mask := by
    rintro d _ rfl
    exact ⟨rfl, rfl⟩
  observe address made byte previous := by
    rintro d _ rfl
    exact ⟨rfl, rfl⟩

theorem step_withBudget (budget : Int64) (device : Device) :
    step { device with budget } = ((step device).1, { (step device).2 with budget }) := by
  have respects := (budget_samePart budget).congruent.clocked.step
  obtain ⟨answer, after⟩ := respects (rfl : { device with budget } = { device with budget })
  exact Prod.ext answer.symm after.symm

theorem runFor_withBudget (budget : Int64) (left : Int) (first : Bool) (device : Device) :
    runFor left first { device with budget } =
      ((runFor left first device).1, { (runFor left first device).2 with budget }) := by
  have stepped := step_withBudget budget device
  fun_induction Device.runFor left first device with
  | case1 left first device positive stops =>
    rw [runFor, if_pos positive, if_pos stops]
  | case2 left first device positive goes stepped' hit =>
    rw [runFor, if_pos positive, if_neg goes, stepped, if_pos hit]
  | case3 left first device positive goes stepped' miss ih =>
    rw [runFor, if_pos positive, if_neg goes, stepped, if_neg miss]
    exact ih (step_withBudget budget _)
  | case4 left first device spent =>
    rw [runFor, if_neg spent]

/-! ## Slices -/

/-- A budget that the device is granted in full, on top of what is left from the run before. -/
structure Uncut (device : Device) (cycles : UInt64) : Prop where
  alone : (cycles.toNat : Int) ≤ largestBudget
  carried : device.budget.toInt + cycles.toNat ≤ largestBudget

theorem Uncut.granted {device : Device} {cycles : UInt64} (uncut : device.Uncut cycles) :
    device.granted cycles = device.budget.toInt + cycles.toNat := by
  have alone := uncut.alone
  have carried := uncut.carried
  unfold Device.granted
  omega

theorem Unmarked.begin {device : Device} (unmarked : device.Unmarked) :
    Undisturbed { device with breakpointHit := false } :=
  ⟨⟨unmarked.breakpoints, unmarked.points, unmarked.hit⟩, rfl⟩

variable {device : Device} {cycles : UInt64}

/-- A run without marks leaves none. -/
theorem Unmarked.execute (unmarked : device.Unmarked) (cycles : UInt64) :
    (execute cycles device).2.Undisturbed := by
  have calm := unmarked.begin.runFor (device.granted cycles) true
  rw [execute_apply]
  exact calm.of_same rfl rfl rfl

/-- A run answers the cycles that its budget has lost. -/
theorem used_execute (unmarked : device.Unmarked) (uncut : device.Uncut cycles) :
    ((execute cycles device).1.toNat : Int) =
      device.budget.toInt + cycles.toNat - (execute cycles device).2.budget.toInt := by
  obtain ⟨-, left⟩ := (execute_ending cycles device).of_unmarked
    (unmarked.execute cycles).breakpointHit
  rw [uncut.granted] at left
  omega

/-- What a run leaves of its cycles, be it a debt, is kept in the stored budget. -/
theorem budget_execute (unmarked : device.Unmarked) (uncut : device.Uncut cycles) :
    (execute cycles device).2.budget.toInt =
      (runFor (device.budget.toInt + cycles.toNat) true
        { device with breakpointHit := false }).1 := by
  have used := used_execute unmarked uncut
  have cost := execute_used cycles device
  unfold course at cost
  rw [uncut.granted] at cost
  rw [runFor_left unmarked.begin, ← cost]
  omega

/-- A part of a budget that is granted in full is granted in full. -/
theorem Uncut.part {part whole : UInt64} (uncut : device.Uncut whole)
    (less : part.toNat ≤ whole.toNat) : device.Uncut part := by
  have alone := uncut.alone
  have carried := uncut.carried
  exact ⟨by omega, by omega⟩

/-- What is left of a budget is granted in full after a part of it. -/
theorem Uncut.rest {part rest whole : UInt64} (uncut : device.Uncut whole)
    (unmarked : device.Unmarked) (sum : part.toNat + rest.toNat = whole.toNat) :
    (execute part device).2.Uncut rest := by
  have alone := uncut.alone
  have carried := uncut.carried
  have used := used_execute unmarked (uncut.part (by omega : part.toNat ≤ whole.toNat))
  exact ⟨by omega, by omega⟩

/-- Two budgets one after the other are as good as one. -/
theorem execute_add {first second whole : UInt64} (unmarked : device.Unmarked)
    (sum : first.toNat + second.toNat = whole.toNat) (uncut : device.Uncut whole) :
    (execute second (execute first device).2).2 = (execute whole device).2 := by
  have part := uncut.part (by omega : first.toNat ≤ whole.toNat)
  have left := budget_execute unmarked part
  have joined := runFor_add unmarked.begin (device.budget.toInt + first.toNat)
    (Int.natCast_nonneg second.toNat) true true
  have resumed : { (execute first device).2 with breakpointHit := false } =
      (execute first device).2 := by
    rw [← (unmarked.execute first).breakpointHit]
  rw [execute_apply second, execute_apply whole, (uncut.rest unmarked sum).granted, uncut.granted,
    resumed, left, ← sum, Int.natCast_add, ← Int.add_assoc, joined, execute_apply first,
    part.granted, runFor_withBudget]

/-- Any slices of a budget are as good as the whole: the device ends the same, with the same
exchange on its bench, and the slices use the cycles of the whole together. -/
theorem execute_slices {slices : List UInt64} {whole : UInt64} (unmarked : device.Unmarked)
    (nonempty : slices ≠ []) (sum : (slices.map UInt64.toNat).sum = whole.toNat)
    (uncut : device.Uncut whole) :
    ((slices.mapM execute : Action _) device).2 = (execute whole device).2 ∧
      (((slices.mapM execute : Action _) device).1.map UInt64.toNat).sum =
        (execute whole device).1.toNat := by
  induction slices generalizing device whole with
  | nil => exact absurd rfl nonempty
  | cons first slices ih =>
    rw [List.map_cons, List.sum_cons] at sum
    rw [List.mapM_cons]
    simp only [bind_apply, pure_apply, List.map_cons, List.sum_cons]
    cases slices with
    | nil =>
      have only : first = whole := UInt64.toNat_inj.mp sum
      rw [only]
      exact ⟨rfl, rfl⟩
    | cons second slices =>
      -- the slices after the first are as good as their sum, and that follows the first slice
      let rest := UInt64.ofNat ((second :: slices).map UInt64.toNat).sum
      have fits : whole.toNat < UInt64.size := whole.toNat_lt
      have total : rest.toNat = ((second :: slices).map UInt64.toNat).sum :=
        UInt64.toNat_ofNat_of_lt' (by omega)
      have split : first.toNat + rest.toNat = whole.toNat := by rw [total, sum]
      have unmarkedLater := (unmarked.execute first).toUnmarked
      have uncutLater := uncut.rest unmarked split
      obtain ⟨same, used⟩ := ih unmarkedLater (List.cons_ne_nil _ _) total.symm uncutLater
      have joined := execute_add unmarked split uncut
      have usedFirst := used_execute unmarked
        (uncut.part (by omega : first.toNat ≤ whole.toNat))
      have usedLater := used_execute unmarkedLater uncutLater
      have usedWhole := used_execute unmarked uncut
      rw [joined] at usedLater
      exact ⟨same.trans joined, by omega⟩

/-- Slices of a budget on a device that has just been started, some of which only pay for what an
earlier one overran. -/
theorem execute_slices_after_start :
    (Operation.start.run (.new .c4 4000000)).2.Unmarked ∧ [1, 4, 0, 7] ≠ [] ∧
      ([1, 4, 0, 7].map UInt64.toNat).sum = (12 : UInt64).toNat ∧
      (Operation.start.run (.new .c4 4000000)).2.Uncut 12 ∧
      (([1, 4, 0, 7].mapM execute : Action _) (Operation.start.run (.new .c4 4000000)).2).2 =
        (execute 12 (Operation.start.run (.new .c4 4000000)).2).2 ∧
      ((([1, 4, 0, 7].mapM execute : Action _)
          (Operation.start.run (.new .c4 4000000)).2).1.map UInt64.toNat).sum =
        (execute 12 (Operation.start.run (.new .c4 4000000)).2).1.toNat := by
  have unmarked : (Operation.start.run (.new .c4 4000000)).2.Unmarked := ⟨rfl, rfl, rfl⟩
  have sum : ([1, 4, 0, 7].map UInt64.toNat).sum = (12 : UInt64).toNat := by decide
  have uncut : (Operation.start.run (.new .c4 4000000)).2.Uncut 12 := ⟨by decide, by decide⟩
  have slices := execute_slices unmarked (List.cons_ne_nil 1 [4, 0, 7]) sum uncut
  exact ⟨unmarked, List.cons_ne_nil _ _, sum, uncut, slices⟩

/-! ## Grants that are cut -/

/-- A budget that does not even pay the debt is not run. -/
theorem execute_spent (spent : device.granted cycles ≤ 0) :
    execute cycles device = (0, { device with
      breakpointHit := false, budget := Int64.ofInt (device.granted cycles) }) := by
  rw [execute_apply, runFor, if_neg (Int.not_lt.mpr spent)]
  exact congrArg (·, _) (UInt64.sub_self _)

/-- A stopped device as deep in debt as the stored budget can tell. -/
def indebted : Device :=
  let started := (Operation.start.run (.new .c4 4000000)).2
  { started with cpu := { started.cpu with state := .stop }, budget := Int64.minValue }

theorem indebted_wellFormed : indebted.WellFormed := by
  have started := Reachable.wellFormed (.operate .start (.new .c4 4000000))
  exact { started with }

/-- Slices that are granted in full lead further than their sum when that is cut: here the sum and
the debt together leave two cycles, which pass only if the sum is granted in slices. -/
theorem slices_outlast_a_cut_grant :
    indebted.WellFormed ∧ indebted.Unmarked ∧
      ([0x7FFFFFFFFFFFFFFF, 3].map UInt64.toNat).sum = (0x8000000000000002 : UInt64).toNat ∧
      indebted.budget.toInt + (0x8000000000000002 : UInt64).toNat = 2 ∧
      (([0x7FFFFFFFFFFFFFFF, 3].mapM execute : Action _) indebted).1 = [0, 2] ∧
      (([0x7FFFFFFFFFFFFFFF, 3].mapM execute : Action _) indebted).2.budget = 0 ∧
      (execute 0x8000000000000002 indebted).1 = 0 ∧
      (execute 0x8000000000000002 indebted).2.budget = -1 := by
  have unmarked : indebted.Unmarked := ⟨rfl, rfl, rfl⟩
  let paying : Device := { indebted with breakpointHit := false, budget := -1 }
  have spent (cycles : UInt64) (cut : indebted.granted cycles = -1) :
      execute cycles indebted = (0, paying) := by
    rw [execute_spent (by rw [cut]; decide), cut]
    rfl
  -- the second slice passes the two cycles in one step of the stopped processor
  have second : (execute 3 paying).1 = 2 ∧ (execute 3 paying).2.budget = 0 := by
    have calm : paying.Undisturbed := ⟨⟨rfl, rfl, rfl⟩, rfl⟩
    have idle : step paying = (2, { paying with cpu := paying.cpu.addTicks idleCycles }) :=
      step_stopped rfl (by decide) rfl
    have granted : paying.granted 3 = 2 := by decide
    have ran : runFor 2 true paying =
        (0, { paying with cpu := paying.cpu.addTicks idleCycles }) := by
      rw [runFor_undisturbed calm, if_pos (by decide), idle, runFor, if_neg (by decide)]
      rfl
    rw [execute_apply, granted]
    change ((runFor 2 true paying).2.cpu.tick - paying.cpu.tick = 2) ∧
      Int64.ofInt (runFor 2 true paying).1 = 0
    rw [ran]
    exact ⟨by decide, by decide⟩
  refine ⟨indebted_wellFormed, unmarked, by decide, by decide, ?_, ?_, ?_, ?_⟩
  · rw [List.mapM_cons, List.mapM_cons, List.mapM_nil]
    simp only [bind_apply, pure_apply, spent 0x7FFFFFFFFFFFFFFF (by decide), second.1]
  · rw [List.mapM_cons, List.mapM_cons, List.mapM_nil]
    simp only [bind_apply, pure_apply, spent 0x7FFFFFFFFFFFFFFF (by decide), second.2]
  · rw [spent 0x8000000000000002 (by decide)]
  · rw [spent 0x8000000000000002 (by decide)]

end Device
end M68HC05
