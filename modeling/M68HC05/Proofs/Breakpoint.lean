import M68HC05.Proofs.RunEnd
import M68HC05.Proofs.Service
import M68HC05.Proofs.WellFormed

/-!
What a run does at breakpoints. The breakpoints are looked up where a step begins, and the course of
a run meets none there, its beginning apart (`Device.clear_of_course`). A step that takes an interrupt
fetches its opcode elsewhere, at the address that the vector holds (`Device.fetchAddress?_due`), and
that address is not looked up. So a run passes a breakpoint exactly where one stands at the first
instruction of a service (`Device.passesBreakpoint_iff`).

Where a run begins is not looked up either. A run that follows another one may begin at a breakpoint
only if the one before has ended there, which it reports if it has cycles left
(`Device.ended_at_breakpoint_before`); with its cycles used up it does not
(`Device.breakpoint_unreported_between_runs`).
-/

namespace M68HC05

open M68HC05.Action

namespace Device

variable {device : Device} {cycles : UInt64}

/-! ## Opcodes that a run fetches -/

/-- The address at which a step fetches an opcode: where the processor is after an interrupt is
served, unless it idles then. -/
def fetchAddress? (device : Device) : Option UInt16 :=
  let served := (serveInterrupt device).2
  if served.cpu.state = .running then some served.cpu.pc else none

/-- The addresses at which `execute` fetches opcodes, in order. -/
def fetches (cycles : UInt64) (device : Device) : List UInt16 :=
  (device.course cycles).filterMap fetchAddress?

/-- A run fetches an opcode at a breakpoint, and not only the first one where the run begins. -/
def PassesBreakpoint (cycles : UInt64) (device : Device) : Prop :=
  ∃ earlier address later, device.fetches cycles = earlier ++ address :: later ∧
    address ∈ device.breakpoints ∧ ¬ (earlier = [] ∧ address = device.cpu.pc)

/-- With an interrupt to serve, a step begins with the instruction that the vector points to. -/
theorem fetchAddress?_due {line : InterruptLine} (due : device.interruptDue? = some line) :
    device.fetchAddress? = some (device.vectorTarget line) := by
  have registers := charge_cpu interruptCycles (device.entered line)
  rw [entered_cpu] at registers
  unfold fetchAddress?
  rw [serveInterrupt_due due]
  dsimp only
  rw [registers]
  rfl

/-- With none to serve, a running processor goes on where it is. -/
theorem fetchAddress?_idle (due : device.interruptDue? = none) :
    device.fetchAddress? = if device.cpu.state = .running then some device.cpu.pc else none := by
  unfold fetchAddress?
  rw [serveInterrupt_idle due]

/-! ## The course of a run keeps clear of breakpoints -/

/-- A step begins at a breakpoint only where the run begins. -/
theorem clear_of_courseFor {left : Int} {first : Bool} {earlier later : List Device}
    {boundary : Device} (split : courseFor left first device = earlier ++ boundary :: later) :
    boundary.breakpoints = device.breakpoints ∧
      (boundary.cpu.pc ∈ device.breakpoints →
        first = true ∧ earlier = [] ∧ boundary = device) := by
  fun_induction courseFor left first device generalizing earlier with
  | case1 left first device positive stops =>
    exact absurd split.symm (List.append_ne_nil_of_right_ne_nil _ (List.cons_ne_nil _ _))
  | case2 left first device positive goes ih =>
    rcases List.cons_eq_append_iff.mp split with ⟨begins, rest⟩ | ⟨passed, -, rest⟩
    · obtain ⟨rfl, -⟩ := List.cons.inj rest
      refine ⟨rfl, fun marked => ⟨?_, begins, rfl⟩⟩
      cases first with
      | true => rfl
      | false => exact absurd (List.contains_iff_mem.mpr marked) goes
    · split at rest
      · exact absurd rest.symm (List.append_ne_nil_of_right_ne_nil _ (List.cons_ne_nil _ _))
      · obtain ⟨same, clear⟩ := ih rest
        rw [breakpoints_step] at same clear
        exact ⟨same, fun marked => absurd (clear marked).1 Bool.false_ne_true⟩
  | case3 left first device spent =>
    exact absurd split.symm (List.append_ne_nil_of_right_ne_nil _ (List.cons_ne_nil _ _))

theorem clear_of_course {earlier later : List Device} {boundary : Device}
    (split : device.course cycles = earlier ++ boundary :: later)
    (marked : boundary.cpu.pc ∈ device.breakpoints) :
    earlier = [] ∧ boundary.cpu.pc = device.cpu.pc := by
  obtain ⟨-, begins, same⟩ := (clear_of_courseFor split).2 marked
  exact ⟨begins, by rw [same]⟩

/-- A run that is granted anything makes a step where it begins. -/
theorem exists_course (granted : 0 < device.granted cycles) :
    ∃ later, device.course cycles = { device with breakpointHit := false } :: later := by
  unfold course
  rw [courseFor, if_pos granted, Bool.not_true, Bool.false_and, if_neg Bool.false_ne_true]
  exact ⟨_, rfl⟩

/-! ## Runs through a breakpoint -/

/-- What is fetched is fetched in a step. -/
theorem fetches_split {earlier later : List UInt16} {address : UInt16}
    (split : device.fetches cycles = earlier ++ address :: later) :
    ∃ before boundary after, device.course cycles = before ++ boundary :: after ∧
      before.filterMap fetchAddress? = earlier ∧ boundary.fetchAddress? = some address := by
  obtain ⟨before, rest, whole, rfl, ends⟩ := List.filterMap_eq_append_iff.mp split
  obtain ⟨idle, boundary, after, rfl, silent, fetched, -⟩ := List.filterMap_eq_cons_iff.mp ends
  refine ⟨before ++ idle, boundary, after, ?_, ?_, fetched⟩
  · rw [whole, List.append_assoc]
  · rw [List.filterMap_append, List.filterMap_eq_nil_iff.mpr silent, List.append_nil]

/-- A run passes a breakpoint exactly where it takes an interrupt with a breakpoint at the first
instruction of the service, which is the first instruction of the run only if the run begins there
as well. Everywhere else the run stops. -/
theorem passesBreakpoint_iff (device : Device) (cycles : UInt64) :
    device.PassesBreakpoint cycles ↔
      ∃ earlier boundary later line, device.course cycles = earlier ++ boundary :: later ∧
        boundary.interruptDue? = some line ∧ boundary.vectorTarget line ∈ device.breakpoints ∧
        ¬ (earlier.filterMap fetchAddress? = [] ∧
          boundary.vectorTarget line = device.cpu.pc) := by
  constructor
  · rintro ⟨_, address, later, split, marked, passed⟩
    obtain ⟨earlier, boundary, after, course, rfl, fetched⟩ := fetches_split split
    rcases due : boundary.interruptDue? with _ | line
    · -- no breakpoint is met where a step begins, but where the run does
      rw [fetchAddress?_idle due] at fetched
      split at fetched
      · cases fetched
        obtain ⟨rfl, same⟩ := clear_of_course course marked
        exact absurd ⟨rfl, same⟩ passed
      · cases fetched
    · rw [fetchAddress?_due due] at fetched
      cases fetched
      exact ⟨earlier, boundary, after, line, course, due, marked, passed⟩
  · rintro ⟨earlier, boundary, later, line, course, due, marked, passed⟩
    refine ⟨earlier.filterMap fetchAddress?, boundary.vectorTarget line,
      later.filterMap fetchAddress?, ?_, marked, passed⟩
    unfold fetches
    rw [course, List.filterMap_append, List.filterMap_cons_some (fetchAddress?_due due)]

/-- A started part whose external line has just been asserted, with interrupts allowed and a
breakpoint where its service begins. -/
def interrupted : Device :=
  { runAll [.write 0x0300 0x9D .debugger, .write 0x1FFA 0x03 .debugger, .start,
      .setRegister .pc 0x0100, .setRegister .cc 0, .setInputLine .interrupt true]
      (.new .c4 4000000) with breakpoints := [0x0300] }

theorem interrupted_wellFormed : interrupted.WellFormed := by
  have reachable := Reachable.operate (.setInputLine .interrupt true)
    (.operate (.setRegister .cc 0) (.operate (.setRegister .pc 0x0100)
      (.operate .start (.operate (.write 0x1FFA 0x03 .debugger)
        (.operate (.write 0x0300 0x9D .debugger) (.new .c4 4000000))))))
  exact (Reachable.arrange (.mark [0x0300] false .empty) reachable rfl).wellFormed

/-- The service is entered and its first instruction run in one step, and the run ends as one that
has met no breakpoint. -/
theorem passesBreakpoint_at_service :
    interrupted.WellFormed ∧ (∀ address ∈ interrupted.breakpoints, address < 0x2000) ∧
      interrupted.PassesBreakpoint 12 ∧ (execute 12 interrupted).2.cpu.pc = 0x0301 ∧
      (execute 12 interrupted).2.breakpointHit = false := by
  let begun : Device := { interrupted with breakpointHit := false }
  have facts : interrupted.cpu.pc = 0x0100 ∧ 0 < interrupted.granted 12 ∧
      begun.interruptDue? = some .external ∧ begun.vectorTarget .external = 0x0300 ∧
      (execute 12 interrupted).2.cpu.pc = 0x0301 ∧
      (execute 12 interrupted).2.breakpointHit = false := by
    decide +kernel
  obtain ⟨start, granted, due, target, pc, unmarked⟩ := facts
  have below : ∀ address ∈ interrupted.breakpoints, address < 0x2000 := by
    intro address member
    rw [List.mem_singleton.mp member]
    decide
  have fetched : begun.fetchAddress? = some 0x0300 := by rw [fetchAddress?_due due, target]
  have elsewhere : ¬ (([] : List UInt16) = [] ∧ 0x0300 = interrupted.cpu.pc) := by
    rw [start]
    decide
  obtain ⟨later, course⟩ := exists_course granted
  refine ⟨interrupted_wellFormed, below, ⟨[], 0x0300, later.filterMap fetchAddress?, ?_,
    List.mem_singleton.mpr rfl, elsewhere⟩, pc, unmarked⟩
  unfold fetches
  rw [course, List.filterMap_cons_some fetched]
  rfl

/-! ## Breakpoints between runs -/

/-- The first instruction that a run makes is the one at an address, and it is not the first one of
a service. The run may idle before. -/
def BeginsAt (cycles : UInt64) (device : Device) (address : UInt16) : Prop :=
  ∃ idle boundary later, device.course cycles = idle ++ boundary :: later ∧
    idle.filterMap fetchAddress? = [] ∧ boundary.interruptDue? = none ∧
    boundary.fetchAddress? = some address

/-- A run that begins with the instruction at a breakpoint begins at the breakpoint. -/
theorem BeginsAt.pc {address : UInt16} (begins : BeginsAt cycles device address)
    (marked : address ∈ device.breakpoints) : device.cpu.pc = address := by
  obtain ⟨idle, boundary, later, course, -, due, fetched⟩ := begins
  rw [fetchAddress?_idle due] at fetched
  split at fetched
  · cases fetched
    exact (clear_of_course course marked).2.symm
  · cases fetched

/-- Without watchpoints a run ends at a mark exactly if it has cycles left. -/
theorem breakpointHit_iff (unwatched : device.Unwatched) (cycles : UInt64) :
    (execute cycles device).2.breakpointHit = true ↔
      ((execute cycles device).1.toNat : Int) < device.granted cycles := by
  have ending := execute_ending cycles device
  have unhit := (Unwatched.execute cycles device unwatched).hasHit
  cases ending with
  | spent enough rest unmarked =>
    rw [unmarked]
    exact iff_of_false Bool.false_ne_true (Int.not_lt.mpr enough)
  | breakpoint short rest marked there => exact iff_of_true marked short
  | watched some rest marked hit => exact absurd (hit.symm.trans unhit) (by decide)

/-- Runs leave the breakpoints to the host. -/
theorem breakpoints_execute (cycles : UInt64) : Moves (Same breakpoints) (execute cycles) :=
  (Same.flow breakpoints).execute breakpoints_step (fun _ _ => rfl) (fun _ _ => rfl) cycles

/-- Any number of runs one after the other, without watchpoints. If a run other than the first begins
with the instruction at a breakpoint, then the run before has ended just there, and it has reported
the breakpoint exactly if it had cycles left. -/
theorem ended_at_breakpoint_before (unwatched : device.Unwatched) (budgets : List UInt64)
    (cycles next : UInt64) {address : UInt16} (marked : address ∈ device.breakpoints) :
    let before := runAll (budgets.map .execute) device
    let ran := execute cycles before
    BeginsAt next ran.2 address →
      ran.2.cpu.pc = address ∧
        (ran.2.breakpointHit = true ↔ (ran.1.toNat : Int) < before.granted cycles) := by
  intro before ran begins
  have calm : before.Unwatched :=
    (Kept.flow Unwatched).runs Unwatched.execute budgets device unwatched
  have early : before.breakpoints = device.breakpoints :=
    (Same.flow breakpoints).runs breakpoints_execute budgets device
  have late : ran.2.breakpoints = before.breakpoints := breakpoints_execute cycles before
  rw [← early, ← late] at marked
  exact ⟨begins.pc marked, breakpointHit_iff calm cycles⟩

/-- A started part about to run instructions without effect, with a breakpoint at the second one. -/
def passing : Device :=
  { runAll [.write 0x0100 0x9D .debugger, .write 0x0101 0x9D .debugger, .start,
      .setRegister .pc 0x0100] (.new .c4 4000000) with breakpoints := [0x0101] }

theorem passing_wellFormed : passing.WellFormed := by
  have reachable := Reachable.operate (.setRegister .pc 0x0100) (.operate .start
    (.operate (.write 0x0101 0x9D .debugger) (.operate (.write 0x0100 0x9D .debugger)
      (.new .c4 4000000))))
  exact (Reachable.arrange (.mark [0x0101] false .empty) reachable rfl).wellFormed

/-- With no interrupt to serve, a running processor begins with the instruction where it is. -/
theorem beginsAt_of_running (granted : 0 < device.granted cycles)
    (running : device.cpu.state = .running) (due : device.interruptDue? = none) :
    BeginsAt cycles device device.cpu.pc := by
  let begun : Device := { device with breakpointHit := false }
  have idle : begun.interruptDue? = none := due
  have fetched : begun.fetchAddress? = some begun.cpu.pc :=
    (fetchAddress?_idle idle).trans (if_pos running)
  obtain ⟨later, course⟩ := exists_course granted
  exact ⟨[], begun, later, course, rfl, idle, fetched⟩

/-- A run that stops at the breakpoint with a cycle left, and one that goes on. -/
theorem ended_at_breakpoint_before_passing :
    let ran := execute 3 passing
    passing.Unwatched ∧ 0x0101 ∈ passing.breakpoints ∧ BeginsAt 2 ran.2 0x0101 ∧
      ran.2.cpu.pc = 0x0101 ∧ ran.2.breakpointHit = true := by
  intro ran
  have unwatched : passing.Unwatched := ⟨rfl, rfl⟩
  have marked : 0x0101 ∈ passing.breakpoints := List.mem_singleton.mpr rfl
  have facts : ran.2.cpu.pc = 0x0101 ∧ ran.2.cpu.state = .running ∧
      ran.2.interruptDue? = none ∧ 0 < ran.2.granted 2 ∧
      (ran.1.toNat : Int) < passing.granted 3 := by
    decide +kernel
  obtain ⟨place, running, due, granted, short⟩ := facts
  have begins := beginsAt_of_running granted running due
  rw [place] at begins
  obtain ⟨there, reported⟩ := ended_at_breakpoint_before unwatched [] 3 2 marked begins
  exact ⟨unwatched, marked, begins, there, reported.mpr short⟩

/-- A run whose cycles are used up just at the breakpoint reports nothing, and the next one begins
with the instruction there. -/
theorem breakpoint_unreported_between_runs :
    let ran := execute 2 passing
    passing.WellFormed ∧ passing.watches = .empty ∧ 0x0101 ∈ passing.breakpoints ∧
      ran.2.breakpointHit = false ∧ BeginsAt 2 ran.2 0x0101 ∧
      (execute 2 ran.2).2.cpu.pc = 0x0102 := by
  intro ran
  have facts : ran.2.cpu.pc = 0x0101 ∧ ran.2.cpu.state = .running ∧
      ran.2.interruptDue? = none ∧ 0 < ran.2.granted 2 ∧ ran.2.breakpointHit = false ∧
      (execute 2 ran.2).2.cpu.pc = 0x0102 := by
    decide +kernel
  obtain ⟨place, running, due, granted, unreported, passed⟩ := facts
  have begins := beginsAt_of_running granted running due
  rw [place] at begins
  exact ⟨passing_wellFormed, rfl, List.mem_singleton.mpr rfl, unreported, begins, passed⟩

end Device
end M68HC05
