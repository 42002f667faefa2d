import M68HC05.Proofs.RunEnd
import M68HC05.Proofs.StepEvents
import Mathlib.Order.Bounds.Defs

/-!
Breakpoints and watchpoints watch a program and do not change it. Two devices that differ in marks
only (`Device.Alike`) stay so in every step, and a watchpoint is hit in a step exactly if it catches
one of the accesses of the step (`Watched.step`). So a run with marks makes the steps that a run
without them would make, and ends after the first of them at which there is a reason to stop
(`Device.execute_eq_walk`).
-/

namespace M68HC05

open M68HC05.Action Device

/-! ## Devices without their marks -/

/-- The entry is what a watch list says of a hit. -/
def Entry.isWatchHit : Entry → Bool
  | .remark (.watchHit ..) => true
  | _ => false

/-- The bench without what watch lists have said. -/
def Bench.unwatched (bench : Bench) : Bench :=
  { bench with trace := bench.trace.filter (!·.isWatchHit) }

namespace Bench

theorem unwatched_add (bench : Bench) (entry : Entry) :
    (bench.add entry).unwatched =
      if entry.isWatchHit then bench.unwatched else bench.unwatched.add entry := by
  cases entry with
  | signal sent =>
    change (bench.add (.signal sent)).unwatched = bench.unwatched.add (.signal sent)
    have hears : bench.unwatched.hears sent = bench.hears sent := by
      cases sent with
      | _ => rfl
    unfold add
    dsimp only
    rw [hears]
    split
    · rfl
    · rfl
  | remark text =>
    cases text with
    | _ => rfl

theorem sample_unwatched (bench : Bench) (port : PortIndex) (mask : UInt8) :
    bench.unwatched.sample port mask =
      ((bench.sample port mask).1, (bench.sample port mask).2.unwatched) := by
  have wires : bench.unwatched.sources = bench.sources := rfl
  have added : (bench.add (.signal (.sample port mask))).unwatched =
      bench.unwatched.add (.signal (.sample port mask)) :=
    bench.unwatched_add (.signal (.sample port mask))
  unfold sample
  rw [wires]
  rcases bench.sources.get port with _ | source
  · rfl
  · dsimp only
    rw [← added]
    rfl

theorem unwatched_record_observe (bench : Bench) (list : WatchList) (address : UInt16)
    (made : WatchKind) (byte : UInt8) (previous : Option UInt8) :
    (bench.record (list.observe address made byte previous).report).unwatched =
      bench.unwatched := by
  unfold WatchList.observe
  dsimp only
  split
  · rfl
  · rfl

end Bench

namespace Device

/-- A device without its marks and without what has become of them: the budget left over by the last
run, its report on breakpoints, and the remarks on watch hits. -/
def unmarked (device : Device) : Device :=
  { device with
    budget := 0
    breakpoints := []
    breakpointHit := false
    watches := .empty
    bench := device.bench.unwatched }

/-- Devices that differ in their marks only. -/
def Alike (d e : Device) : Prop :=
  d.unmarked = e.unmarked

theorem Alike.eq {d e : Device} (related : d.Alike e) : d.unmarked = e.unmarked :=
  related

/-- What a device does depends on no mark. -/
theorem Alike.samePart : SamePart Alike where
  variant related := (congrArg Device.variant related.eq :)
  guest related := (congrArg Device.guest related.eq :)
  withGuest guest related := congrArg (Device.withGuest · guest) related.eq
  add {d e} entry related := by
    unfold Alike unmarked
    rw [Bench.unwatched_add, Bench.unwatched_add]
    split
    · exact related
    · exact congrArg (fun device => { device with bench := device.bench.add entry }) related.eq
  sample index mask := by
    intro d e related
    have benches : d.bench.unwatched = e.bench.unwatched := congrArg Device.bench related.eq
    have sampled := d.bench.sample_unwatched index mask
    rw [benches, e.bench.sample_unwatched index mask] at sampled
    obtain ⟨answer, after⟩ := Prod.mk.inj sampled
    refine ⟨answer.symm, ?_⟩
    let rebenched (bench : Bench) (device : Device) : Device := { device with bench }
    change rebenched (d.bench.sample index mask).2.unwatched d.unmarked =
      rebenched (e.bench.sample index mask).2.unwatched e.unmarked
    rw [after, related.eq]
  observe address made byte previous := by
    intro d e related
    have unchanged (device : Device) :
        (observe address made byte previous device).2.unmarked = device.unmarked :=
      congrArg (fun bench => { device.unmarked with bench })
        (device.bench.unwatched_record_observe device.watches address made byte previous)
    exact ⟨rfl, (unchanged d).trans (related.eq.trans (unchanged e).symm)⟩

theorem Alike.congruent : Congruent Alike :=
  samePart.congruent

end Device

/-! ## What watchpoints catch -/

/-- A watchpoint of the list is triggered by an access. -/
def WatchList.catches (list : WatchList) (access : BusAccess) : Bool :=
  list.points.any (·.triggers access.address access.made access.byte)

/-- Counting does not change what triggers a watchpoint. -/
theorem Watchpoint.triggers_count (point : Watchpoint) (address : UInt16) (made : WatchKind)
    (byte : UInt8) : (point.count address made byte).triggers = point.triggers := by
  unfold Watchpoint.count
  split
  · rfl
  · rfl

theorem WatchList.catches_observe (list : WatchList) (address : UInt16) (made : WatchKind)
    (byte : UInt8) (previous : Option UInt8) :
    (list.observe address made byte previous).next.catches = list.catches := by
  funext access
  change (list.points.map (·.count address made byte)).any _ = list.points.any _
  rw [List.any_map]
  unfold Function.comp
  simp only [Watchpoint.triggers_count]

theorem WatchList.hasHit_observe (list : WatchList) (address : UInt16) (made : WatchKind)
    (byte : UInt8) (previous : Option UInt8) :
    (list.observe address made byte previous).next.hasHit =
      (list.hasHit || list.catches ⟨address, made, byte⟩) := by
  have found : (list.firstHit? address made byte previous).isSome =
      list.catches ⟨address, made, byte⟩ := by
    unfold firstHit? catches
    rw [Option.isSome_map, List.findIdx?_isSome]
  rcases list with ⟨points, hit⟩
  cases hit with
  | none => exact found
  | some hit => rfl

/-- The accesses among some events, in order. -/
def accessesAmong (events : List DeviceEvent) : List BusAccess :=
  events.filterMap fun
    | .access made => some made
    | _ => none

/-- From one device to the other, the watch list goes on to catch what it catches, and it has a hit
if it had one or has caught one of these accesses. -/
structure Watched (accesses : List BusAccess) (before after : Device) : Prop where
  catches : after.watches.catches = before.watches.catches
  hasHit : after.watches.hasHit = (before.watches.hasHit || accesses.any before.watches.catches)

namespace Watched

variable {before after : Device}

theorem of_same (same : after.watches = before.watches) : Watched [] before after where
  catches := by rw [same]
  hasHit := by rw [same, List.any_nil, Bool.or_false]

theorem trans {early late : List BusAccess} {a b c : Device} (first : Watched early a b)
    (second : Watched late b c) : Watched (early ++ late) a c where
  catches := second.catches.trans first.catches
  hasHit := by
    rw [second.hasHit, first.hasHit, first.catches, List.any_append, Bool.or_assoc]

theorem observed {address : UInt16} {made : WatchKind} {byte : UInt8} {previous : Option UInt8}
    (same : after.watches = (before.watches.observe address made byte previous).next) :
    Watched [⟨address, made, byte⟩] before after where
  catches := by
    rw [same]
    exact before.watches.catches_observe address made byte previous
  hasHit := by
    rw [same, List.any_cons, List.any_nil, Bool.or_false]
    exact before.watches.hasHit_observe address made byte previous

/-- Handlers leave the watch list to the bus. -/
theorem watches_readHandler (handler : Handler) (offset address : UInt16) (access : Access) :
    Moves (Same watches) (readHandler handler offset address access) := by
  unfold readHandler
  cases handler with
  | portData => exact Moves.readPort (Same.flow watches) (fun _ _ => rfl) fun _ _ => rfl
  | _ => exact fun _ => rfl

theorem watches_passWrite (address : UInt16) (byte : UInt8) :
    Moves (Same watches) (passWrite address byte .program) := by
  unfold passWrite
  refine Moves.get fun device => ?_
  rcases device.variant.addressMap.writer? address with _ | ⟨handler, offset⟩
  · exact fun _ => rfl
  · unfold writeHandler
    cases handler with
    | _ => exact fun _ => rfl

theorem read (address : UInt16) (device : Device) :
    Watched [device.readAccess address] device (Device.read address .program device).2 := by
  unfold readAccess Device.read
  rw [bind_apply, get_apply]
  dsimp only
  rcases device.variant.addressMap.reader? (busAddress address) with _ | ⟨handler, offset⟩
  · exact observed rfl
  · have same := watches_readHandler handler offset (busAddress address) .program device
    dsimp only
    rw [bind_apply]
    generalize readHandler handler offset (busAddress address) .program device = answered at same ⊢
    refine observed (?_ : _ = (device.watches.observe _ .read answered.1 none).next)
    rw [← (same : answered.2.watches = device.watches)]
    rfl

theorem write (address : UInt16) (byte : UInt8) (device : Device) :
    Watched [.write address byte] device (Device.write address byte .program device).2 := by
  let noted := (observe (busAddress address) .write byte
    (some (device.memory.read (busAddress address))) device).2
  have same : (Device.write address byte .program device).2.watches = noted.watches :=
    watches_passWrite (busAddress address) byte noted
  exact observed same

theorem charge (cycles : Nat) (device : Device) :
    Watched [] device (Device.charge cycles device).2 := by
  unfold Device.charge
  simp only [bind_apply, get_apply, Action.ite_apply]
  split
  · exact of_same rfl
  · exact of_same rfl

theorem account : StepAccount fun events => Watched (accessesAmong events) where
  refl _ := of_same rfl
  trans first second := by
    unfold accessesAmong
    rw [List.filterMap_append]
    exact first.trans second
  cpu _ _ _ := of_same rfl
  remark _ _ _ := of_same rfl
  read := read
  write := write
  signalled _ _ := of_same rfl
  charge := charge
  idle _ := of_same rfl
  cleared _ := of_same rfl

end Watched

namespace Device

/-- The accesses of a step: those of an interrupt entry, of an instruction with its fetch, and of a
reset. -/
def stepAccesses (device : Device) : List BusAccess :=
  accessesAmong device.eventsInStep

theorem watched_step (device : Device) : Watched device.stepAccesses device (step device).2 :=
  Watched.account.step device

/-! ## Steps without end -/

/-- The cycles of the first steps of a device, and the device after them. -/
def walk : Nat → Device → Nat × Device
  | 0, device => (0, device)
  | k + 1, device =>
    let rest := walk k (step device).2
    ((step device).1 + rest.1, rest.2)

/-- There is a reason for a run to stop after so many steps. -/
inductive StopsAfter (watched : BusAccess → Bool) (breakpoints : List UInt16) (left : Int)
    (first : Bool) (start : Device) (k : Nat) : Prop where
  /-- the cycles are used up -/
  | spent (enough : left ≤ (walk k start).1)
  /-- the last step has made an access that is watched -/
  | watched {j : Nat} (last : k = j + 1) {access : BusAccess}
    (made : access ∈ (walk j start).2.stepAccesses) (caught : watched access = true)
  /-- a breakpoint is reached, other than where the run begins -/
  | breakpoint (later : first.toNat ≤ k) (some : (walk k start).1 < left)
    (there : (walk k start).2.cpu.pc ∈ breakpoints)

variable {watched : BusAccess → Bool} {breakpoints : List UInt16} {left : Int} {first : Bool}
  {start : Device} {k : Nat}

/-- Before the first step there is nothing that could have been watched. -/
theorem stopsAfter_zero_iff : StopsAfter watched breakpoints left first start 0 ↔
    left ≤ 0 ∨ first = false ∧ start.cpu.pc ∈ breakpoints := by
  constructor
  · intro stops
    cases stops with
    | spent enough => exact .inl enough
    | watched last _ _ => cases last
    | breakpoint later some there =>
      refine .inr ⟨?_, there⟩
      cases first with
      | false => rfl
      | true => cases later
  · rintro (enough | ⟨rfl, there⟩)
    · exact .spent enough
    · by_cases some : 0 < left
      · exact .breakpoint (Nat.zero_le 0) some there
      · exact .spent (Int.not_lt.mp some)

/-- What is a reason to stop after one step or more: the first step has been watched, or there is a
reason after the steps that follow it. -/
theorem stopsAfter_succ_iff : StopsAfter watched breakpoints left first start (k + 1) ↔
    (k = 0 ∧ start.stepAccesses.any watched = true) ∨
      StopsAfter watched breakpoints (left - (step start).1) false (step start).2 k := by
  have cycles : (walk (k + 1) start).1 = (step start).1 + (walk k (step start).2).1 := rfl
  constructor
  · intro stops
    cases stops with
    | spent enough => exact .inr (.spent (by omega))
    | @watched j last access made caught =>
      cases last
      cases k with
      | zero => exact .inl ⟨rfl, List.any_eq_true.mpr ⟨access, made, caught⟩⟩
      | succ j => exact .inr (.watched rfl made caught)
    | breakpoint later some there => exact .inr (.breakpoint (Nat.zero_le k) (by omega) there)
  · rintro (⟨rfl, caught⟩ | stops)
    · obtain ⟨access, made, caught⟩ := List.any_eq_true.mp caught
      exact .watched rfl made caught
    · cases stops with
      | spent enough => exact .spent (by omega)
      | @watched j last access made caught =>
        cases last
        exact .watched rfl made caught
      | breakpoint later some there =>
        refine .breakpoint ?_ (by omega) there
        cases first with
        | false => exact Nat.zero_le _
        | true => exact Nat.succ_le_succ (Nat.zero_le k)

/-! ## Runs with and without marks -/

/-- A watchpoint is hit in a step if it catches what a device with the same guest does in it. -/
theorem hasHit_step {device : Device} (calm : device.watches.hasHit = false)
    (related : device.Alike start) :
    (step device).2.watches.hasHit = start.stepAccesses.any device.watches.catches := by
  have same : device.stepAccesses = start.stepAccesses :=
    congrArg accessesAmong (Alike.congruent.eventsInStep related)
  rw [device.watched_step.hasHit, calm, Bool.false_or, same]

/-- A run with marks makes the steps that one without marks makes, up to the first reason to stop. -/
theorem runFor_alike (left : Int) (first : Bool) {device : Device}
    (calm : device.watches.hasHit = false) (related : device.Alike start) :
    ∃ k, IsLeast { k | StopsAfter device.watches.catches device.breakpoints left first start k } k ∧
      (runFor left first device).2.Alike (walk k start).2 := by
  have place {device start : Device} (related : device.Alike start) :
      device.cpu = start.cpu := (congrArg Device.cpu related.eq :)
  -- where a run goes on there is no reason to stop yet
  have unstopped {left : Int} {first : Bool} {device start : Device} (related : device.Alike start)
      (positive : 0 < left) (goes : ¬ (!first && device.breakpoints.contains device.cpu.pc) = true)
      (caught : BusAccess → Bool) : ¬ StopsAfter caught device.breakpoints left first start 0 := by
    intro stops
    rcases stopsAfter_zero_iff.mp stops with spent | ⟨rfl, there⟩
    · exact absurd positive (Int.not_lt.mpr spent)
    · rw [← place related] at there
      exact goes (List.contains_iff_mem.mpr there)
  fun_induction runFor left first device generalizing start with
  | case1 left first device positive stops =>
    rw [Bool.and_eq_true, Bool.not_eq_true'] at stops
    have there := List.contains_iff_mem.mp stops.2
    rw [place related] at there
    exact ⟨0, ⟨stopsAfter_zero_iff.mpr (.inr ⟨stops.1, there⟩), fun _ _ => Nat.zero_le _⟩, related⟩
  | case2 left first device positive goes stepped =>
    rename_i hit
    obtain ⟨-, after⟩ := Alike.congruent.clocked.step related
    rw [hasHit_step calm related] at hit
    refine ⟨1, ⟨stopsAfter_succ_iff.mpr (.inl ⟨rfl, hit⟩), fun m stops => ?_⟩, after⟩
    cases m with
    | zero => exact absurd stops (unstopped related positive goes _)
    | succ m => exact Nat.succ_le_succ (Nat.zero_le m)
  | case3 left first device positive goes stepped miss =>
    rename_i ih
    obtain ⟨cycles, after⟩ := Alike.congruent.clocked.step related
    obtain ⟨k, ⟨stops, least⟩, ends⟩ := ih (Bool.eq_false_iff.mpr miss) after
    rw [device.watched_step.catches, breakpoints_step, cycles] at stops least
    rw [hasHit_step calm related] at miss
    refine ⟨k + 1, ⟨stopsAfter_succ_iff.mpr (.inr stops), fun m earlier => ?_⟩, ends⟩
    cases m with
    | zero => exact absurd earlier (unstopped related positive goes _)
    | succ m =>
      rcases stopsAfter_succ_iff.mp earlier with ⟨-, hit⟩ | later
      · exact absurd hit miss
      · exact Nat.succ_le_succ (least later)
  | case4 left first device spent =>
    have enough := Int.not_lt.mp spent
    exact ⟨0, ⟨stopsAfter_zero_iff.mpr (.inl enough), fun _ _ => Nat.zero_le _⟩, related⟩

/-- The same device without breakpoints and watchpoints. -/
def bare (device : Device) : Device :=
  { device with breakpoints := [], watches := .empty }

/-- Marks do not change what a program does. On a device of any part in any state, with any
breakpoints and watchpoints but no hit waiting, a run on a budget does what some number of steps do
on the same device without marks, up to the marks and what has become of them: the guest ends the
same, with the same exchange on its bench. It is the least number of steps after which there is a
reason to stop: the cycles are used up, a watchpoint catches an access of the last step, or, with
cycles left, the processor has come to a breakpoint. -/
theorem execute_eq_walk (device : Device) (calm : device.watches.hit = none) (cycles : UInt64) :
    ∃ k, IsLeast { k | StopsAfter device.watches.catches device.breakpoints
        (device.granted cycles) true device.bare k } k ∧
      (execute cycles device).2.unmarked = (walk k device.bare).2.unmarked := by
  let begun : Device := { device with breakpointHit := false }
  have unhit : begun.watches.hasHit = false := by
    change device.watches.hit.isSome = false
    rw [calm]
    rfl
  have related : begun.Alike device.bare := rfl
  obtain ⟨k, least, ends⟩ := runFor_alike (device.granted cycles) true unhit related
  exact ⟨k, least, ends⟩

/-- A started part about to run instructions without effect, with a watchpoint at the second one and
breakpoints at the first and the third. -/
def guarded : Device :=
  { runAll [.write 0x0100 0x9D .debugger, .write 0x0101 0x9D .debugger, .start,
      .setRegister .pc 0x0100] (.new .c4 4000000) with
    breakpoints := [0x0100, 0x0102]
    watches := ⟨[⟨0x0101, .read, none, true, 0⟩], none⟩ }

/-- The run passes the breakpoint where it begins and ends after the second step, whose fetch is
watched. -/
theorem execute_eq_walk_guarded :
    guarded.watches.hit = none ∧
      (execute 100 guarded).2.unmarked = (walk 2 guarded.bare).2.unmarked := by
  obtain ⟨k, ⟨stops, least⟩, same⟩ := execute_eq_walk guarded rfl 100
  have facts : guarded.granted 100 = 100 ∧ (step guarded.bare).1 = 2 ∧
      (step guarded.bare).2.cpu.pc ∉ guarded.breakpoints ∧
      guarded.bare.stepAccesses.any guarded.watches.catches = false ∧
      (step guarded.bare).2.stepAccesses.any guarded.watches.catches = true := by
    decide +kernel
  obtain ⟨granted, cost, elsewhere, silent, caught⟩ := facts
  rw [granted] at stops least
  have two : k = 2 := by
    refine Nat.le_antisymm (least ?_) ?_
    · exact stopsAfter_succ_iff.mpr (.inr (stopsAfter_succ_iff.mpr (.inl ⟨rfl, caught⟩)))
    · cases k with
      | zero =>
        rcases stopsAfter_zero_iff.mp stops with spent | ⟨going, -⟩
        · exact absurd spent (by decide)
        · cases going
      | succ k =>
        rcases stopsAfter_succ_iff.mp stops with ⟨-, hit⟩ | later
        · rw [silent] at hit
          cases hit
        · cases k with
          | zero =>
            rw [cost] at later
            rcases stopsAfter_zero_iff.mp later with spent | ⟨-, there⟩
            · exact absurd spent (by decide)
            · exact absurd there elsewhere
          | succ k => omega
  rw [two] at same
  exact ⟨rfl, same⟩

end Device
end M68HC05
