import M68HC05.Proofs.RunEnd
import M68HC05.Proofs.WellFormed

/-!
The debt of an overrun. A host runs a device in slices: it grants cycles, and it takes watch hits in
between. What a run overruns is deducted from the next grant, so that the cycles used add up to the
cycles granted but for the last overrun, with one exception: a run that a watchpoint ends keeps
nothing, and when it has overrun its cycles it keeps no debt either. The books of all slices
(`used_balance`) show these debts as the only cycles that are used and never granted. Slices that all
end in this way use far more than they are granted (`overruns_forgiven_at_watchpoints`).
-/

namespace M68HC05

open M68HC05.Action Device

namespace Operation

/-- What a host does that runs a device in slices. -/
def inSlices : Operation → Bool
  | execute _ => true
  | takeHit => true
  | _ => false

/-! ## The books of an operation -/

/-- The cycles that a host asks for. -/
def asked : Operation → Device → Nat
  | execute cycles, _ => cycles.toNat
  | _, _ => 0

/-- The cycles that are granted: those asked for, but at most the largest budget at once. -/
def given : Operation → Device → Nat
  | execute cycles, _ => (min (cycles.toNat : Int) largestBudget).toNat
  | _, _ => 0

/-- The cycles that a run answers to have used. -/
def used : Operation → Device → Nat
  | execute cycles, device => (Device.execute cycles device).1.toNat
  | _, _ => 0

/-- The cycles left over that a run loses because it ends at a mark. -/
def lost : Operation → Device → Nat
  | execute cycles, device =>
    let ran := Device.execute cycles device
    if ran.2.breakpointHit then (device.granted cycles - ran.1.toNat).toNat else 0
  | _, _ => 0

/-- The debt that a run is let off because it ends at a mark. -/
def forgiven : Operation → Device → Nat
  | execute cycles, device =>
    let ran := Device.execute cycles device
    if ran.2.breakpointHit then (ran.1.toNat - device.granted cycles).toNat else 0
  | _, _ => 0

end Operation

open Operation

/-- What is counted for each of some operations, added up. -/
def total (count : Operation → Device → Nat) (operations : List Operation) (device : Device) : Nat :=
  (along (fun operation device => [count operation device]) operations device).sum

theorem total_cons (count : Operation → Device → Nat) (operation : Operation)
    (operations : List Operation) (device : Device) :
    total count (operation :: operations) device =
      count operation device + total count operations (operation.run device).2 :=
  rfl

theorem given_le_asked (operation : Operation) (device : Device) :
    operation.given device ≤ operation.asked device := by
  cases operation with
  | execute cycles =>
    change (min (cycles.toNat : Int) largestBudget).toNat ≤ cycles.toNat
    omega
  | _ => exact Nat.le_refl 0

theorem total_given_le (operations : List Operation) (device : Device) :
    total given operations device ≤ total asked operations device := by
  induction operations generalizing device with
  | nil => exact Nat.le_refl 0
  | cons operation operations ih =>
    rw [total_cons, total_cons]
    exact Nat.add_le_add (given_le_asked operation device) (ih _)

/-! ## Slices -/

namespace Device

/-- A device that owes the overrun of at most one step. -/
structure Indebted (device : Device) : Prop where
  floor : -20 ≤ device.budget.toInt
  owes : device.budget.toInt ≤ 0

theorem Indebted.granted {device : Device} (indebted : device.Indebted) (cycles : UInt64) :
    device.granted cycles = device.budget.toInt + (Operation.execute cycles).given device := by
  have owes := indebted.owes
  have positive : 0 < largestBudget := by decide
  change min (device.budget.toInt + min (cycles.toNat : Int) largestBudget) largestBudget =
    device.budget.toInt + (min (cycles.toNat : Int) largestBudget).toNat
  omega

/-- A run is let off a debt only where a watchpoint ends it, and no more than the overrun of a
step. -/
theorem watched_of_forgiven {cycles : UInt64} {device : Device}
    (forgiven : (Operation.execute cycles).forgiven device ≠ 0) :
    (execute cycles device).2.watches.hasHit = true ∧
      device.granted cycles < (execute cycles device).1.toNat ∧
      (execute cycles device).1.toNat ≤ device.granted cycles + 20 := by
  have bound := execute_used_le cycles device
  have ending := execute_ending cycles device
  change (if (execute cycles device).2.breakpointHit then
    ((execute cycles device).1.toNat - device.granted cycles).toNat else 0) ≠ 0 at forgiven
  cases ending with
  | spent enough rest unmarked =>
    rw [unmarked, if_neg Bool.false_ne_true] at forgiven
    exact absurd rfl forgiven
  | breakpoint short rest marked there =>
    rw [if_pos marked] at forgiven
    omega
  | watched some rest marked hit =>
    rw [if_pos marked] at forgiven
    rw [if_pos some] at bound
    exact ⟨hit, by omega, bound⟩

/-- The books of a run: what is owed, granted and forgiven goes into cycles that are used or lost,
and into what is owed then. -/
theorem Indebted.execute {device : Device} (indebted : device.Indebted) (cycles : UInt64) :
    (Device.execute cycles device).2.Indebted ∧
      device.budget.toInt + (Operation.execute cycles).given device +
          (Operation.execute cycles).forgiven device =
        (Device.execute cycles device).2.budget.toInt + (Operation.execute cycles).used device +
          (Operation.execute cycles).lost device := by
  have floor := indebted.floor
  have owes := indebted.owes
  have granted := indebted.granted cycles
  have bound := execute_used_le cycles device
  have ending := execute_ending cycles device
  unfold forgiven used lost
  dsimp only
  generalize Device.execute cycles device = ran at bound ending ⊢
  cases ending with
  | spent enough rest unmarked =>
    simp only [unmarked, Bool.false_eq_true, if_false]
    refine ⟨⟨?_, by omega⟩, by omega⟩
    split at bound
    · omega
    · omega
  | breakpoint short rest marked there =>
    simp only [marked, if_true]
    exact ⟨⟨by omega, by omega⟩, by omega⟩
  | watched some rest marked hit =>
    simp only [marked, if_true]
    exact ⟨⟨by omega, by omega⟩, by omega⟩

theorem Indebted.operation {device : Device} (indebted : device.Indebted) {operation : Operation}
    (slice : operation.inSlices = true) :
    (operation.run device).2.Indebted ∧
      device.budget.toInt + operation.given device + operation.forgiven device =
        (operation.run device).2.budget.toInt + operation.used device + operation.lost device := by
  cases operation with
  | execute cycles => exact indebted.execute cycles
  | takeHit => exact ⟨⟨indebted.floor, indebted.owes⟩, rfl⟩
  | _ => cases slice

theorem Indebted.runAll {device : Device} (indebted : device.Indebted) {operations : List Operation}
    (slices : ∀ operation ∈ operations, operation.inSlices = true) :
    (runAll operations device).Indebted ∧
      device.budget.toInt + total given operations device + total forgiven operations device =
        (M68HC05.runAll operations device).budget.toInt + total used operations device +
          total lost operations device := by
  induction operations generalizing device with
  | nil => exact ⟨indebted, rfl⟩
  | cons operation operations ih =>
    obtain ⟨slice, rest⟩ := List.forall_mem_cons.mp slices
    obtain ⟨middle, first⟩ := indebted.operation slice
    obtain ⟨final, later⟩ := ih middle rest
    refine ⟨final, ?_⟩
    simp only [total_cons]
    change _ = (M68HC05.runAll operations (operation.run device).2).budget.toInt + _ + _
    omega

end Device

/-- The books of all slices on a device without debts. The cycles used are those granted, less those
lost at marks, and more by the debts that runs were let off and by the last overrun, which is at most
20. A run is let off a debt only if it has overrun its cycles, by at most 20, and a watchpoint has
ended it; so without such runs the cycles used exceed the cycles asked for by at most 20. -/
theorem used_balance {device : Device} (paid : device.budget = 0) {operations : List Operation}
    (slices : ∀ operation ∈ operations, operation.inSlices = true) :
    let debt := -(runAll operations device).budget.toInt
    (total used operations device : Int) =
        total given operations device - total lost operations device +
          total forgiven operations device + debt ∧
      0 ≤ debt ∧ debt ≤ 20 ∧
      (∀ cycles before, (Operation.execute cycles).forgiven before ≠ 0 →
        let ran := Device.execute cycles before
        ran.2.watches.hasHit = true ∧ before.granted cycles < ran.1.toNat ∧
          ran.1.toNat ≤ before.granted cycles + 20) ∧
      (total forgiven operations device = 0 →
        total used operations device ≤ total asked operations device + 20) := by
  intro debt
  have none : device.budget.toInt = 0 := by
    rw [paid]
    decide
  have begun : device.Indebted := ⟨by omega, by omega⟩
  obtain ⟨ends, books⟩ := begun.runAll slices
  have floor := ends.floor
  have owes := ends.owes
  have cut := total_given_le operations device
  exact ⟨by omega, by omega, by omega, fun _ _ forgiven => watched_of_forgiven forgiven, by omega⟩

/-- A started part about to run three multiplications, each of which is watched for its opcode. -/
def Device.multiplying : Device :=
  { runAll [.write 0x0100 0x42 .debugger, .write 0x0101 0x42 .debugger,
      .write 0x0102 0x42 .debugger, .start, .setRegister .pc 0x0100] (.new .c4 4000000) with
    watches := ⟨[0x0100, 0x0101, 0x0102].map fun address => ⟨address, .read, none, true, 0⟩, none⟩ }

theorem Device.multiplying_wellFormed : multiplying.WellFormed := by
  have reachable := Reachable.operate (.setRegister .pc 0x0100) (.operate .start
    (.operate (.write 0x0102 0x42 .debugger) (.operate (.write 0x0101 0x42 .debugger)
      (.operate (.write 0x0100 0x42 .debugger) (.new .c4 4000000)))))
  exact (Reachable.arrange (.mark [] false multiplying.watches) reachable rfl).wellFormed

/-- A multiplication that is watched and lets the run off its debt, and one that is not watched and
leaves a debt. -/
theorem used_balance_of_multiplying :
    let device := { Device.multiplying with watches := ⟨[⟨0x0100, .read, none, true, 0⟩], none⟩ }
    let slices := [.execute 1, .takeHit, .execute 1]
    device.budget = 0 ∧ (∀ operation ∈ slices, operation.inSlices = true) ∧
      total forgiven slices device = 10 ∧
      (total used slices device : Int) =
        total given slices device - total lost slices device + total forgiven slices device +
          -(runAll slices device).budget.toInt := by
  intro device slices
  have paid : device.budget = 0 := by decide +kernel
  have sliced : ∀ operation ∈ slices, operation.inSlices = true := by decide
  exact ⟨paid, sliced, by decide +kernel, (used_balance paid sliced).1⟩

/-- Three slices of one cycle each use 33 cycles, since a watchpoint ends each of them. -/
theorem overruns_forgiven_at_watchpoints :
    let slices := [.execute 1, .takeHit, .execute 1, .takeHit, .execute 1, .takeHit]
    Device.multiplying.WellFormed ∧ Device.multiplying.started = true ∧
      Device.multiplying.budget = 0 ∧ (∀ operation ∈ slices, operation.inSlices = true) ∧
      total asked slices .multiplying = 3 ∧ total used slices .multiplying = 33 ∧
      ¬ total used slices .multiplying ≤ total asked slices .multiplying + 20 := by
  intro slices
  have facts : Device.multiplying.started = true ∧ Device.multiplying.budget = 0 ∧
      total asked slices .multiplying = 3 ∧ total used slices .multiplying = 33 := by
    decide +kernel
  obtain ⟨started, paid, asked, used⟩ := facts
  refine ⟨Device.multiplying_wellFormed, started, paid, by decide, asked, used, ?_⟩
  rw [asked, used]
  decide

end M68HC05
