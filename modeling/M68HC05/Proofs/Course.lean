import M68HC05.Proofs.Operation

/-!
The course of a run: the devices at which its steps begin (`Device.course`). What a step is noted
for, a run is noted for step by step, so a relation that is labelled by a list of notes and composes
along lists (`Account`) passes from steps to runs on a budget and to whole sequences of operations
(`Account.execute`, `Account.along`).

The operations of a board, which drives lines and makes program accesses while a program runs, are
singled out by `Operation.ofBoard`.
-/

namespace M68HC05

open M68HC05.Action Device

/-! ## Places in a history -/

/-- A place in a list that is one longer is at its end or within the rest. -/
theorem concat_eq_split {α : Type} {past earlier later : List α} {last chosen : α}
    (split : past ++ [last] = earlier ++ chosen :: later) :
    (past = earlier ∧ last = chosen ∧ later = []) ∨
      ∃ between, past = earlier ++ chosen :: between ∧ later = between ++ [last] := by
  rcases later.eq_nil_or_concat with rfl | ⟨between, final, rfl⟩
  · obtain ⟨same, ends⟩ := List.append_inj' split rfl
    exact .inl ⟨same, (List.cons.inj ends).1, rfl⟩
  · rw [List.concat_eq_append, ← List.cons_append, ← List.append_assoc] at split
    obtain ⟨same, ends⟩ := List.append_inj' split rfl
    rw [List.concat_eq_append, (List.cons.inj ends).1]
    exact .inr ⟨between, same, rfl⟩

namespace Device

/-! ## The course of a run -/

/-- The cycles that a run has before it: what is left from the run before, which may be a debt, and
the budget given, neither of them nor both together more than the largest budget. -/
def granted (device : Device) (cycles : UInt64) : Int :=
  min (device.budget.toInt + min (cycles.toNat : Int) largestBudget) largestBudget

theorem execute_apply (cycles : UInt64) (device : Device) :
    execute cycles device =
      let ran := runFor (device.granted cycles) true { device with breakpointHit := false }
      (ran.2.cpu.tick - device.cpu.tick, { ran.2 with budget := Int64.ofInt ran.1 }) := rfl

/-- The devices at which the steps of `runFor` begin, in order. -/
def courseFor (left : Int) (first : Bool) (device : Device) : List Device :=
  if 0 < left then
    if !first && device.breakpoints.contains device.cpu.pc then []
    else
      device :: if (step device).2.watches.hasHit then []
        else courseFor (left - (step device).1) false (step device).2
  else []
termination_by left.toNat
decreasing_by
  have := step_cycles_pos device
  omega

/-- The devices at which the steps of `execute` begin, in order. -/
def course (cycles : UInt64) (device : Device) : List Device :=
  courseFor (device.granted cycles) true { device with breakpointHit := false }

end Device

/-! ## Operations and their steps -/

namespace Operation

/-- What a board does with a device while a program runs on it. -/
def ofBoard : Operation → Bool
  | start => true
  | reset => true
  | setInputLine _ _ => true
  | step => true
  | execute _ => true
  | executeClocks _ => true
  | read _ access => access = .program
  | readWord _ access => access = .program
  | write _ _ access => access = .program
  | _ => false

/-- The operation makes steps. -/
def makesSteps : Operation → Bool
  | step => true
  | execute _ => true
  | executeClocks _ => true
  | _ => false

/-- The devices at which the steps of an operation begin, in order. -/
def boundaries : Operation → Device → List Device
  | step, device => [device]
  | execute cycles, device => device.course cycles
  | executeClocks clocks, device => device.course (clocksToCycles clocks)
  | _, _ => []

end Operation

/-- The device after a sequence of operations. -/
def runAll (operations : List Operation) (device : Device) : Device :=
  operations.foldl (fun device operation => (operation.run device).2) device

theorem runAll_append (earlier later : List Operation) (device : Device) :
    runAll (earlier ++ later) device = runAll later (runAll earlier device) :=
  List.foldl_append

/-- A flow that runs stay in is stayed in by any number of them, one after the other. -/
theorem Action.Flow.runs {T : Device → Device → Prop} (flow : Flow T)
    (single : ∀ cycles, Moves T (Device.execute cycles)) (budgets : List UInt64) (device : Device) :
    T device (runAll (budgets.map .execute) device) := by
  induction budgets generalizing device with
  | nil => exact flow.refl device
  | cons cycles budgets ih => exact flow.trans (single cycles device) (ih _)

/-- What a sequence of operations is noted for, operation by operation. -/
def along {E : Type} (note : Operation → Device → List E) : List Operation → Device → List E
  | [], _ => []
  | operation :: operations, device =>
    note operation device ++ along note operations (operation.run device).2

theorem along_append {E : Type} (note : Operation → Device → List E)
    (earlier later : List Operation) (device : Device) :
    along note (earlier ++ later) device =
      along note earlier device ++ along note later (runAll earlier device) := by
  induction earlier generalizing device with
  | nil => rfl
  | cons operation earlier ih =>
    rw [List.cons_append, along, along, ih, List.append_assoc]
    rfl

/-! ## Accounts -/

/-- A relation between the devices before and after, labelled by what happens in between, that
composes along lists and takes no note of the marks of a run. -/
structure Account {E : Type} (T : List E → Device → Device → Prop) : Prop where
  refl (device : Device) : T [] device device
  trans {early late : List E} {a b c : Device} : T early a b → T late b c → T (early ++ late) a c
  stop (device : Device) (breakpointHit : Bool) : T [] device { device with breakpointHit }
  grant (device : Device) (budget : Int64) : T [] device { device with budget }

namespace Account

variable {E : Type} {T : List E → Device → Device → Prop} {note : Device → List E}

theorem runFor (account : Account T) (step : ∀ device, T (note device) device (step device).2)
    (left : Int) (first : Bool) (device : Device) :
    T ((courseFor left first device).flatMap note) device (runFor left first device).2 := by
  fun_induction Device.runFor left first device with
  | case1 left first device positive stops =>
    rw [courseFor, if_pos positive, if_pos stops]
    exact account.stop device true
  | case2 left first device positive goes stepped hit =>
    rw [courseFor, if_pos positive, if_neg goes, if_pos hit, List.flatMap_cons]
    exact account.trans (step device) (account.stop _ true)
  | case3 left first device positive goes stepped miss ih =>
    rw [courseFor, if_pos positive, if_neg goes, if_neg miss, List.flatMap_cons]
    exact account.trans (step device) ih
  | case4 left first device spent =>
    rw [courseFor, if_neg spent]
    exact account.refl device

theorem execute (account : Account T) (step : ∀ device, T (note device) device (step device).2)
    (cycles : UInt64) (device : Device) :
    T ((device.course cycles).flatMap note) device (execute cycles device).2 := by
  rw [execute_apply]
  have begun := account.stop device false
  have ran := account.runFor step (device.granted cycles) true { device with breakpointHit := false }
  have ended := account.trans begun ran
  generalize Device.runFor (device.granted cycles) true { device with breakpointHit := false } = after
    at ended ⊢
  have kept := account.trans ended (account.grant after.2 (Int64.ofInt after.1))
  rw [List.nil_append, List.append_nil] at kept
  exact kept

/-- What a step is noted for, the operations that make steps are, step by step. -/
theorem stepping (account : Account T) (step : ∀ device, T (note device) device (step device).2)
    {operation : Operation} (steps : operation.makesSteps = true) (device : Device) :
    T ((operation.boundaries device).flatMap note) device (operation.run device).2 := by
  cases operation with
  | step =>
    have single : (Operation.step.boundaries device).flatMap note = note device :=
      List.flatMap_singleton ..
    rw [single]
    exact step device
  | execute cycles => exact account.execute step cycles device
  | executeClocks clocks => exact account.execute step (clocksToCycles clocks) device
  | _ => cases steps

/-- What each of the operations is noted for, all of them are. -/
theorem along (account : Account T) {note : Operation → Device → List E}
    {operations : List Operation}
    (each : ∀ operation ∈ operations, ∀ device,
      T (note operation device) device (operation.run device).2) (device : Device) :
    T (M68HC05.along note operations device) device (runAll operations device) := by
  induction operations generalizing device with
  | nil => exact account.refl device
  | cons operation operations ih =>
    have first := each operation List.mem_cons_self device
    have later := ih fun operation member => each operation (List.mem_cons_of_mem _ member)
    exact account.trans first (later (operation.run device).2)

end Account

/-- An invariant of all operations holds wherever a step begins. -/
theorem OperationFlow.boundaries {P : Device → Prop} (flow : OperationFlow (Kept P))
    (operations : List Operation) {device : Device} (holds : P device) :
    ∀ boundary ∈ along Operation.boundaries operations device, P boundary := by
  let T (passed : List Device) (before after : Device) : Prop :=
    P before → P after ∧ ∀ boundary ∈ passed, P boundary
  have account : Account T := {
    refl := fun _ holds => ⟨holds, by simp⟩
    trans := by
      intro early late a b c first second holds
      obtain ⟨middle, before⟩ := first holds
      obtain ⟨final, after⟩ := second middle
      refine ⟨final, fun boundary member => ?_⟩
      rcases List.mem_append.mp member with passed | passed
      · exact before boundary passed
      · exact after boundary passed
    stop := fun device hit holds => ⟨flow.stop device hit holds, by simp⟩
    grant := fun device budget holds => ⟨flow.grant device budget holds, by simp⟩ }
  have stepped (device : Device) : T [device] device (Device.step device).2 := by
    intro holds
    refine ⟨flow.step device holds, fun boundary member => ?_⟩
    rw [List.mem_singleton.mp member]
    exact holds
  have each (operation : Operation) (device : Device) :
      T (operation.boundaries device) device (operation.run device).2 := by
    by_cases steps : operation.makesSteps = true
    · have noted := account.stepping stepped steps device
      rw [List.flatMap_singleton' (operation.boundaries device)] at noted
      exact noted
    · have none : operation.boundaries device = [] := by
        cases operation with
        | step => exact absurd rfl steps
        | execute cycles => exact absurd rfl steps
        | executeClocks clocks => exact absurd rfl steps
        | _ => rfl
      rw [none]
      exact fun holds => ⟨flow.operation operation device holds, by simp⟩
  exact (account.along (fun operation _ => each operation) device holds).2

end M68HC05
