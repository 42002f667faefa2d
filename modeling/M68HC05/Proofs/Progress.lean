import M68HC05.Proofs.Budget
import M68HC05.Proofs.Instrumentation

/-!
Progress of runs. No opcode is free: the cheapest instructions take two cycles, and one that could
be cheaper, a jump to an immediate operand, has no opcode (`Instruction.decode_ne_jump`). So every
step of a device takes at least two cycles, whatever its registers, its program and its board are
(`Device.two_le_step_cycles`), and a run on a budget ends.

The main statement is `Device.execute_progresses`, which bounds the steps of a run and what it
leaves of its cycles.
-/

namespace M68HC05

/-! ## The cheapest step -/

namespace Instruction

/-- No opcode stands for a jump to an immediate operand. -/
theorem decode_ne_jump (opcode : UInt8) : decode opcode ≠ .jmp .immediate := by
  have all : ∀ n : Fin 256, decode (UInt8.ofNat n) ≠ .jmp .immediate := by
    decide +kernel
  have this := all ⟨opcode.toNat, opcode.toNat_lt⟩
  rw [UInt8.ofNat_toNat] at this
  exact this

/-- A jump to an immediate operand would be the only instruction of less than two cycles. -/
theorem two_le_cycles {instruction : Instruction} (other : instruction ≠ .jmp .immediate) :
    2 ≤ instruction.cycles := by
  cases instruction with
  | modify op target => cases op <;> cases target <;> exact Nat.le_of_ble_eq_true rfl
  | register op operand => cases operand <;> exact Nat.le_of_ble_eq_true rfl
  | sta operand => cases operand <;> exact Nat.le_of_ble_eq_true rfl
  | stx operand => cases operand <;> exact Nat.le_of_ble_eq_true rfl
  | jmp operand =>
    cases operand with
    | immediate => exact absurd rfl other
    | _ => exact Nat.le_of_ble_eq_true rfl
  | jsr operand => cases operand <;> exact Nat.le_of_ble_eq_true rfl
  | _ => exact Nat.le_of_ble_eq_true rfl

end Instruction

namespace Device

/-- The processor takes two cycles at least for its turn, running or not. -/
theorem two_le_runProcessor_cycles (device : Device) : 2 ≤ (runProcessor device).1 := by
  cases state : device.cpu.state with
  | running =>
    rw [runProcessor_running state]
    exact Instruction.two_le_cycles (Instruction.decode_ne_jump _)
  | wait =>
    rw [runProcessor_wait state]
    exact Nat.le_refl 2
  | stop =>
    rw [runProcessor_stop state]
    exact Nat.le_refl 2

/-- Every step makes progress. -/
theorem two_le_step_cycles (device : Device) : 2 ≤ (step device).1 := by
  have turn := two_le_runProcessor_cycles (serveInterrupt device).2
  rw [step_apply]
  exact Nat.le_add_left_of_le turn

/-! ## The steps of a run -/

/-- A run makes at most one step for every two cycles that it is granted, the last step apart. -/
theorem length_courseFor_le (left : Int) (first : Bool) (device : Device) :
    (courseFor left first device).length ≤ ((left + 1) / 2).toNat := by
  fun_induction courseFor left first device with
  | case1 left first device positive stops => exact Nat.zero_le _
  | case2 left first device positive goes ih =>
    have progress := two_le_step_cycles device
    rw [List.length_cons]
    split
    · rw [List.length_nil]
      omega
    · omega
  | case3 left first device spent => exact Nat.zero_le _

/-- A run ends where its steps lead, but for the mark that it sets. -/
theorem runFor_eq_walk (left : Int) (first : Bool) (device : Device) :
    ∃ breakpointHit, (runFor left first device).2 =
      { (walk (courseFor left first device).length device).2 with breakpointHit } := by
  fun_induction runFor left first device with
  | case1 left first device positive stops =>
    rw [courseFor, if_pos positive, if_pos stops]
    exact ⟨true, rfl⟩
  | case2 left first device positive goes stepped hit =>
    rw [courseFor, if_pos positive, if_neg goes, if_pos hit]
    exact ⟨true, rfl⟩
  | case3 left first device positive goes stepped miss ih =>
    obtain ⟨breakpointHit, ends⟩ := ih
    rw [courseFor, if_pos positive, if_neg goes, if_neg miss]
    exact ⟨breakpointHit, ends⟩
  | case4 left first device spent =>
    rw [courseFor, if_neg spent]
    exact ⟨device.breakpointHit, rfl⟩

/-- The cycles of the steps of a run. -/
theorem cost_courseFor_eq_walk (left : Int) (first : Bool) (device : Device) :
    cost (courseFor left first device) =
      (walk (courseFor left first device).length device).1 := by
  fun_induction courseFor left first device with
  | case1 left first device positive stops => rfl
  | case2 left first device positive goes ih =>
    rw [cost_cons, List.length_cons]
    split
    · rfl
    · exact congrArg ((step device).1 + ·) ih
  | case3 left first device spent => rfl

/-! ## Runs on a budget -/

variable {device : Device} {cycles : UInt64}

/-- What a run without a mark leaves of the cycles granted: a debt of less than a step, unless it
has not run at all. -/
theorem left_of_unmarked (unmarked : (execute cycles device).2.breakpointHit = false) :
    if device.granted cycles ≤ 0 then
      (execute cycles device).2.budget.toInt = device.granted cycles
    else -20 ≤ (execute cycles device).2.budget.toInt ∧
      (execute cycles device).2.budget.toInt ≤ 0 := by
  obtain ⟨enough, left⟩ := (execute_ending cycles device).of_unmarked unmarked
  have most := execute_used_le cycles device
  split
  · rename_i spent
    rw [if_neg (Int.not_lt.mpr spent)] at most
    omega
  · rename_i positive
    rw [if_pos (Int.not_le.mp positive)] at most
    exact ⟨by omega, by omega⟩

/-- A run on a budget is some steps one after the other, each of two cycles at least and 21 at most,
and so no more of them than there are pairs of cycles. It answers what they cost. If no breakpoint
and no watchpoint ends it, its cycles are used up: nothing is left of them but a debt of at most 20,
or all of the debt that it was given. -/
theorem execute_progresses (cycles : UInt64) (device : Device) :
    let steps := (device.course cycles).length
    let walked := walk steps { device with breakpointHit := false }
    let used := (execute cycles device).1
    let after := (execute cycles device).2
    let granted := device.granted cycles
    let left := after.budget.toInt
    (∀ boundary : Device, 2 ≤ (step boundary).1 ∧ (step boundary).1 ≤ 21) ∧
      steps ≤ ((granted + 1) / 2).toNat ∧ used.toNat = walked.1 ∧
      (∃ budget breakpointHit, after = { walked.2 with budget, breakpointHit }) ∧
      (after.breakpointHit = false →
        (if granted ≤ 0 then left = granted else -20 ≤ left ∧ left ≤ 0) ∧
          (used.toNat : Int) = granted - left) := by
  intro steps walked used after granted left
  have bounds (boundary : Device) : 2 ≤ (step boundary).1 ∧ (step boundary).1 ≤ 21 :=
    ⟨two_le_step_cycles boundary, step_cycles_le boundary⟩
  have charged : used.toNat = walked.1 :=
    (execute_used cycles device).trans (cost_courseFor_eq_walk granted true _)
  obtain ⟨breakpointHit, ends⟩ := runFor_eq_walk granted true { device with breakpointHit := false }
  have reached : ∃ budget breakpointHit, after = { walked.2 with budget, breakpointHit } := by
    refine ⟨after.budget, breakpointHit, ?_⟩
    exact congrArg (fun ran => { ran with budget := after.budget }) ends
  refine ⟨bounds, length_courseFor_le granted true _, charged, reached, fun unmarked => ?_⟩
  obtain ⟨-, rest⟩ : granted ≤ used.toNat ∧ left = granted - used.toNat :=
    (execute_ending cycles device).of_unmarked unmarked
  exact ⟨left_of_unmarked unmarked, by omega⟩

/-- A device that has just been started has no marks, so that a run on it ends with its cycles used
up. -/
theorem execute_progresses_after_start :
    (execute 12 (Operation.start.run (.new .c4 4000000)).2).2.breakpointHit = false ∧
      ((Operation.start.run (.new .c4 4000000)).2.course 12).length ≤ 6 ∧
      -20 ≤ (execute 12 (Operation.start.run (.new .c4 4000000)).2).2.budget.toInt ∧
      (execute 12 (Operation.start.run (.new .c4 4000000)).2).2.budget.toInt ≤ 0 := by
  have granted : (Operation.start.run (.new .c4 4000000)).2.granted 12 = 12 := by decide
  have calm : (Operation.start.run (.new .c4 4000000)).2.Unmarked := ⟨rfl, rfl, rfl⟩
  have unmarked := (calm.execute 12).breakpointHit
  obtain ⟨-, steps, -, -, ended⟩ :=
    execute_progresses 12 (Operation.start.run (.new .c4 4000000)).2
  obtain ⟨left, -⟩ := ended unmarked
  rw [granted] at steps left
  rw [if_neg (by decide)] at left
  exact ⟨unmarked, steps, left⟩

end Device
end M68HC05
