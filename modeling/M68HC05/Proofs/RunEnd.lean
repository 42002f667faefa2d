import Mathlib.Algebra.GroupWithZero.Nat
import M68HC05.Proofs.AccessFlow
import M68HC05.Proofs.Course
import M68HC05.Proofs.Step

/-!
How runs end. The cycle counter advances along a run by what its steps cost (`Device.Ticked`), and a
run ends in one of three ways (`Device.Ending`): its cycles are used up, and what it has overrun is
kept as a debt; it is at a breakpoint with cycles left; or a watchpoint has been hit. In the two
last cases nothing is kept, neither cycles left over nor a debt.

Since a step costs at most 21 cycles, a run overruns what it is granted by at most 20
(`Device.execute_used_le`).
-/

namespace M68HC05

open M68HC05.Action

namespace Device

/-! ## What a host sets -/

/-- What is for the host to change. -/
structure Settings where
  budget : Int64
  breakpoints : List UInt16
  breakpointHit : Bool

/-- The settings of a device. -/
def settings (device : Device) : Settings where
  budget := device.budget
  breakpoints := device.breakpoints
  breakpointHit := device.breakpointHit

/-- Steps leave the settings to the host. -/
theorem settings_step : Moves (Same settings) step := by
  have access : AccessFlow (Same settings) := {
    toFlow := Same.flow settings
    ports := fun _ _ => rfl
    timer := fun _ _ => rfl
    watchdog := fun _ _ => rfl
    entry := fun _ _ _ => rfl
    refresh := fun _ => rfl
    observeRead := fun _ _ _ => rfl
    cleared := fun _ => rfl }
  have program : ProgramFlow (Same settings) := {
    toFlow := Same.flow settings
    cpu := fun _ _ _ => rfl
    remark := access.remark
    read := access.read
    write := fun address byte =>
      access.write address byte (fun _ _ => rfl) fun _ => rfl }
  exact StepFlow.step {
    toProgramFlow := program
    acknowledge := fun _ _ => rfl
    consume := fun _ => rfl
    charge := fun cycles => access.charge cycles (fun _ => rfl) fun _ => rfl
    idle := fun _ => rfl
    reset := access.reset (fun _ => rfl) (program.jumpThrough resetVector) }

theorem breakpoints_step (device : Device) :
    (step device).2.breakpoints = device.breakpoints :=
  congrArg Settings.breakpoints (settings_step device)

theorem breakpointHit_step (device : Device) :
    (step device).2.breakpointHit = device.breakpointHit :=
  congrArg Settings.breakpointHit (settings_step device)

/-! ## Devices without watchpoints -/

/-- There is no watchpoint, and no hit of one that was there before. -/
structure Unwatched (device : Device) : Prop where
  points : device.watches.points = []
  hit : device.watches.hit = none

theorem observe_unwatched {device : Device} (points : device.watches.points = [])
    (address : UInt16) (made : WatchKind) (byte : UInt8) (previous : Option UInt8) :
    observe address made byte previous device = ((), device) := by
  rcases watches : device.watches with ⟨listed, hit⟩
  rw [watches] at points
  dsimp only at points
  subst points
  have same : (WatchList.mk [] hit).observe address made byte previous =
      ⟨(), ⟨[], hit⟩, []⟩ := by
    cases hit with
    | none => rfl
    | some hit => rfl
  unfold observe
  rw [modify_apply, watches, same, ← watches]
  rfl

namespace Unwatched

theorem hasHit {device : Device} (unwatched : device.Unwatched) :
    device.watches.hasHit = false := by
  unfold WatchList.hasHit
  rw [unwatched.hit]
  rfl

theorem of_same {before after : Device} (unwatched : before.Unwatched)
    (watches : after.watches = before.watches) : after.Unwatched :=
  ⟨by rw [watches, unwatched.points], by rw [watches, unwatched.hit]⟩

theorem observe (address : UInt16) (made : WatchKind) (byte : UInt8) (previous : Option UInt8) :
    Moves (Kept Unwatched) (observe address made byte previous) := by
  intro device unwatched
  rw [observe_unwatched unwatched.points]
  exact unwatched

theorem accessFlow : AccessFlow (Kept Unwatched) where
  toFlow := Kept.flow Unwatched
  ports _ _ unwatched := unwatched.of_same rfl
  timer _ _ unwatched := unwatched.of_same rfl
  watchdog _ _ unwatched := unwatched.of_same rfl
  entry _ _ _ unwatched := unwatched.of_same rfl
  refresh _ unwatched := unwatched.of_same rfl
  observeRead address byte := observe address .read byte none
  cleared _ unwatched := unwatched.of_same rfl

theorem programFlow : ProgramFlow (Kept Unwatched) where
  toFlow := Kept.flow Unwatched
  cpu _ _ _ unwatched := unwatched.of_same rfl
  remark := accessFlow.remark
  read := accessFlow.read
  write address byte := accessFlow.write address byte (observe _ _ _)
    fun _ unwatched => unwatched.of_same rfl

/-- Steps set no watchpoints. -/
theorem step : Moves (Kept Unwatched) step :=
  StepFlow.step {
    toProgramFlow := programFlow
    acknowledge := fun _ _ unwatched => unwatched.of_same rfl
    consume := fun _ unwatched => unwatched.of_same rfl
    charge := fun cycles => accessFlow.charge cycles
      (fun _ unwatched => unwatched.of_same rfl) fun _ unwatched => unwatched.of_same rfl
    idle := fun _ unwatched => unwatched.of_same rfl
    reset := accessFlow.reset (fun _ unwatched => unwatched.of_same rfl)
      (programFlow.jumpThrough resetVector) }

/-- Neither do runs. -/
theorem execute (cycles : UInt64) : Moves (Kept Unwatched) (execute cycles) :=
  (Kept.flow Unwatched).execute step (fun _ _ unwatched => unwatched.of_same rfl)
    (fun _ _ unwatched => unwatched.of_same rfl) cycles

end Unwatched

/-! ## Cycles along a run -/

/-- The cycle counter has advanced by these cycles. -/
def Ticked (cycles : List Nat) (before after : Device) : Prop :=
  after.cpu.tick = before.cpu.tick + UInt64.ofNat cycles.sum

theorem Ticked.account : Account Ticked where
  refl device := (UInt64.add_zero device.cpu.tick).symm
  trans {early late a b c} first second := by
    unfold Ticked at first second ⊢
    rw [second, first, List.sum_append, UInt64.ofNat_add, UInt64.add_assoc]
  stop device _ := (UInt64.add_zero device.cpu.tick).symm
  grant device _ := (UInt64.add_zero device.cpu.tick).symm

/-- The cycles of a step. -/
def stepCycles (device : Device) : List Nat :=
  [(step device).1]

theorem Ticked.step (device : Device) : Ticked device.stepCycles device (step device).2 :=
  step_tick device

/-- The cycles of the steps that begin at some devices. -/
def cost (course : List Device) : Nat :=
  (course.flatMap stepCycles).sum

theorem cost_cons (boundary : Device) (course : List Device) :
    cost (boundary :: course) = (step boundary).1 + cost course :=
  rfl

/-! ## Endings -/

variable {device : Device} {cycles : UInt64} {granted left : Int} {used : Nat}

/-- How a run ends that was granted some cycles and has used some, with `left` to keep. -/
inductive Ending (granted : Int) (used : Nat) (left : Int) (after : Device) : Prop where
  /-- the cycles are used up -/
  | spent (enough : granted ≤ used) (rest : left = granted - used)
    (unmarked : after.breakpointHit = false)
  /-- the run has come to a breakpoint -/
  | breakpoint (short : used < granted) (rest : left = 0)
    (marked : after.breakpointHit = true) (there : after.cpu.pc ∈ after.breakpoints)
  /-- a watchpoint has been hit -/
  | watched (some : 0 < granted) (rest : left = 0) (marked : after.breakpointHit = true)
    (hit : after.watches.hasHit = true)

/-- A run that ends without a mark has used its cycles up. -/
theorem Ending.of_unmarked {after : Device} (ending : Ending granted used left after)
    (unmarked : after.breakpointHit = false) : granted ≤ used ∧ left = granted - used := by
  cases ending with
  | spent enough rest _ => exact ⟨enough, rest⟩
  | breakpoint _ _ marked _ => exact absurd (marked.symm.trans unmarked) (by decide)
  | watched _ _ marked _ => exact absurd (marked.symm.trans unmarked) (by decide)

/-- What comes after a step is granted what the step leaves, and ends as the whole. -/
theorem Ending.later {after : Device} {first : Nat}
    (ending : Ending (granted - first) used left after) :
    Ending granted (first + used) left after := by
  cases ending with
  | spent enough rest unmarked => exact .spent (by omega) (by omega) unmarked
  | breakpoint short rest marked there => exact .breakpoint (by omega) rest marked there
  | watched some rest marked hit => exact .watched (by omega) rest marked hit

/-- Every run ends in one of the ways. -/
theorem runFor_ending (left : Int) (first : Bool) (unmarked : device.breakpointHit = false) :
    Ending left (cost (courseFor left first device)) (runFor left first device).1
      (runFor left first device).2 := by
  fun_induction runFor left first device with
  | case1 left first device positive stops =>
    rw [courseFor, if_pos positive, if_pos stops]
    rw [Bool.and_eq_true] at stops
    exact .breakpoint positive rfl rfl (List.contains_iff_mem.mp stops.2)
  | case2 left first device positive goes stepped hit =>
    exact .watched positive rfl rfl hit
  | case3 left first device positive goes stepped miss ih =>
    rw [courseFor, if_pos positive, if_neg goes, if_neg miss, cost_cons]
    exact (ih ((breakpointHit_step device).trans unmarked)).later
  | case4 left first device spent =>
    rw [courseFor, if_neg spent]
    exact .spent (Int.not_lt.mp spent) (Int.sub_zero left).symm unmarked

/-- A run that is granted nothing makes no step. -/
theorem cost_courseFor_of_spent (spent : left ≤ 0) (first : Bool) (device : Device) :
    cost (courseFor left first device) = 0 := by
  rw [courseFor, if_neg (Int.not_lt.mpr spent)]
  rfl

/-- A run overruns what it is granted by less than a step. -/
theorem cost_courseFor_le (left : Int) (first : Bool) (device : Device) (granted : 0 < left) :
    cost (courseFor left first device) ≤ left + 20 := by
  fun_induction courseFor left first device with
  | case1 left first device positive stops =>
    change (0 : Int) ≤ left + 20
    omega
  | case2 left first device positive goes ih =>
    have bound := step_cycles_le device
    rw [cost_cons]
    split
    · change (((step device).1 + 0 : Nat) : Int) ≤ left + 20
      omega
    · by_cases more : 0 < left - (step device).1
      · have later := ih more
        omega
      · rw [cost_courseFor_of_spent (Int.not_lt.mp more)]
        omega
  | case3 left first device spent => exact absurd granted spent

/-- The cycle counter advances by the cost of a run. -/
theorem ticked_runFor (left : Int) (first : Bool) (device : Device) :
    (runFor left first device).2.cpu.tick =
      device.cpu.tick + UInt64.ofNat (cost (courseFor left first device)) :=
  Ticked.account.runFor Ticked.step left first device

/-! ## Runs on a budget -/

/-- No run is granted more than the largest budget. -/
theorem granted_le (device : Device) (cycles : UInt64) : device.granted cycles ≤ largestBudget :=
  Int.min_le_right _ _

theorem cost_course_of_spent (spent : device.granted cycles ≤ 0) :
    cost (device.course cycles) = 0 :=
  cost_courseFor_of_spent spent true _

theorem cost_course_le (positive : 0 < device.granted cycles) :
    cost (device.course cycles) ≤ device.granted cycles + 20 :=
  cost_courseFor_le _ true _ positive

/-- A run answers what its steps cost. -/
theorem execute_used (cycles : UInt64) (device : Device) :
    (execute cycles device).1.toNat = cost (device.course cycles) := by
  have clock := ticked_runFor (device.granted cycles) true { device with breakpointHit := false }
  have most := device.granted_le cycles
  have fits : cost (device.course cycles) < UInt64.size := by
    have largest : largestBudget + 20 < (UInt64.size : Int) := by decide
    by_cases positive : 0 < device.granted cycles
    · have bound := cost_course_le positive
      omega
    · rw [cost_course_of_spent (Int.not_lt.mp positive)]
      decide
  rw [execute_apply]
  dsimp only at clock ⊢
  rw [clock, UInt64.add_comm, UInt64.add_sub_cancel]
  exact UInt64.toNat_ofNat_of_lt' fits

/-- A run on a budget overruns what it is granted by at most 20 cycles, and uses none if it is
granted none. -/
theorem execute_used_le (cycles : UInt64) (device : Device) :
    ((execute cycles device).1.toNat : Int) ≤
      if 0 < device.granted cycles then device.granted cycles + 20 else 0 := by
  rw [execute_used]
  split
  · rename_i positive
    exact cost_course_le positive
  · rename_i spent
    rw [cost_course_of_spent (Int.not_lt.mp spent)]
    exact Int.le_refl 0

/-- A run on a budget ends in one of the ways, and the budget keeps what is left. -/
theorem execute_ending (cycles : UInt64) (device : Device) :
    Ending (device.granted cycles) (execute cycles device).1.toNat
      (execute cycles device).2.budget.toInt (execute cycles device).2 := by
  have floor := device.budget.le_toInt
  have most := device.granted_le cycles
  have least : -2 ^ 63 ≤ device.granted cycles := by
    unfold granted largestBudget
    omega
  have largest : largestBudget = 2 ^ 63 - 1 := by decide
  have ending := runFor_ending (device.granted cycles) true
    (rfl : Device.breakpointHit { device with breakpointHit := false } = false)
  have used := execute_used cycles device
  have bound := execute_used_le cycles device
  rw [used] at bound ⊢
  change Ending _ (cost (device.course cycles)) _ _ at ending
  rw [execute_apply]
  generalize runFor (device.granted cycles) true { device with breakpointHit := false } = ran
    at ending ⊢
  have stored : (Int64.ofInt ran.1).toInt = ran.1 := by
    cases ending with
    | spent enough rest unmarked =>
      split at bound
      · exact Int64.toInt_ofInt_of_le (by omega) (by omega)
      · exact Int64.toInt_ofInt_of_le (by omega) (by omega)
    | breakpoint short rest marked there =>
      rw [rest]
      decide
    | watched some rest marked hit =>
      rw [rest]
      decide
  dsimp only
  rw [stored]
  cases ending with
  | spent enough rest unmarked => exact .spent enough rest unmarked
  | breakpoint short rest marked there => exact .breakpoint short rest marked there
  | watched some rest marked hit => exact .watched some rest marked hit

end Device
end M68HC05
