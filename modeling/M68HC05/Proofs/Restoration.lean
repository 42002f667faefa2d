import M68HC05.Proofs.Congruence
import M68HC05.Proofs.WellFormed

/-!
A restored device lives on as the original. Two devices are twins (`Twin`) when their guests and
budgets are equal and what is around them behaves alike: the boards answer alike from now on, and
the watch lists agree up to the hits counted so far. Twins stay twins under every operation and
answer alike (`Twin.hosted`).

Restoring a snapshot makes a twin of the original (`Device.guest_restore`). This rests on the
invariants of reachable devices: the masks that restoring applies cut nothing off, no reset is left
over, and the timer's request, which is copied anew, is copied as it was.
-/

namespace M68HC05

open M68HC05.Action

/-! ## Boards and watch lists that behave alike -/

namespace Bench

/-- Two boards listen to the same signals, and answer samples alike however the exchange goes on. -/
structure Alike (b c : Bench) : Prop where
  sources (port : PortIndex) (later : List Signal) :
    (b.sources.get port).map (· (later ++ b.history)) =
      (c.sources.get port).map (· (later ++ c.history))
  outputs : b.outputs = c.outputs
  compareWired : b.compareWired = c.compareWired
  acknowledgeWired : b.acknowledgeWired = c.acknowledgeWired

variable {b c : Bench}

theorem Alike.hears (alike : b.Alike c) (sent : Signal) : b.hears sent = c.hears sent := by
  unfold Bench.hears
  cases sent with
  | sample port mask =>
    have wired := congrArg Option.isSome (alike.sources port [])
    rw [Option.isSome_map, Option.isSome_map] at wired
    exact wired
  | drive port value direction => simp only [alike.outputs]
  | compareOutput level => exact alike.compareWired
  | acknowledge line => exact alike.acknowledgeWired

/-- Boards that have seen the same entries go on alike after one more signal. -/
theorem Alike.hear (alike : b.Alike c) (sent : Signal) (trace trace' : List Entry) :
    Alike { b with history := sent :: b.history, trace := trace }
      { c with history := sent :: c.history, trace := trace' } where
  sources port later := by
    have extended := alike.sources port (later ++ [sent])
    rw [List.append_assoc, List.append_assoc] at extended
    exact extended
  outputs := alike.outputs
  compareWired := alike.compareWired
  acknowledgeWired := alike.acknowledgeWired

/-- The boards behave alike and have been seen to do the same. -/
structure Twins (b c : Bench) : Prop where
  alike : b.Alike c
  trace : b.trace = c.trace

theorem Twins.add (twins : b.Twins c) (entry : Entry) : (b.add entry).Twins (c.add entry) := by
  obtain ⟨alike, trace⟩ := twins
  cases entry with
  | remark text =>
    refine ⟨⟨alike.sources, alike.outputs, alike.compareWired, alike.acknowledgeWired⟩, ?_⟩
    exact congrArg (Entry.remark text :: ·) trace
  | signal sent =>
    unfold Bench.add
    dsimp only
    rw [alike.hears sent]
    split
    · exact ⟨alike.hear sent _ _, congrArg (Entry.signal sent :: ·) trace⟩
    · exact ⟨alike, trace⟩

/-- Twin boards give the same sample. -/
theorem Twins.sample (twins : b.Twins c) (port : PortIndex) (mask : UInt8) :
    (b.sample port mask).1 = (c.sample port mask).1 ∧
      (b.sample port mask).2.Twins (c.sample port mask).2 := by
  have wired := twins.alike.sources port
  have after := twins.add (.signal (.sample port mask))
  unfold Bench.sample
  rcases left : b.sources.get port with _ | source
  · rcases right : c.sources.get port with _ | source
    · exact ⟨rfl, twins⟩
    · have silent := wired []
      rw [left, right] at silent
      cases silent
  · rcases right : c.sources.get port with _ | source'
    · have silent := wired []
      rw [left, right] at silent
      cases silent
    · have hearsLeft : b.hears (.sample port mask) = true := by
        change (b.sources.get port).isSome = true
        rw [left]
        rfl
      have hearsRight : c.hears (.sample port mask) = true := by
        change (c.sources.get port).isSome = true
        rw [right]
        rfl
      refine ⟨?_, after⟩
      have answer := wired [.sample port mask]
      rw [left, right] at answer
      unfold Bench.add
      dsimp only
      rw [if_pos hearsLeft, if_pos hearsRight]
      exact answer

end Bench

/-- A watchpoint without the hits counted. -/
def Watchpoint.uncounted (point : Watchpoint) : Watchpoint :=
  { point with hits := 0 }

namespace WatchList

/-- Two watch lists watch for the same accesses and hold the same hit. -/
structure Alike (v w : WatchList) : Prop where
  points : v.points.map Watchpoint.uncounted = w.points.map Watchpoint.uncounted
  hit : v.hit = w.hit

variable {v w : WatchList}

theorem uncounted_count (address : UInt16) (made : WatchKind) (byte : UInt8) :
    Watchpoint.uncounted ∘ (·.count address made byte) = Watchpoint.uncounted := by
  funext point
  unfold Watchpoint.count Function.comp
  dsimp only
  split
  · rfl
  · rfl

/-- What an access triggers does not depend on the hits counted. -/
theorem findIdx?_uncounted (points : List Watchpoint) (address : UInt16) (made : WatchKind)
    (byte : UInt8) : (points.map Watchpoint.uncounted).findIdx? (·.triggers address made byte) =
      points.findIdx? (·.triggers address made byte) := by
  rw [List.findIdx?_map]
  rfl

theorem Alike.firstHit (alike : v.Alike w) (address : UInt16) (made : WatchKind) (byte : UInt8)
    (previous : Option UInt8) :
    v.firstHit? address made byte previous = w.firstHit? address made byte previous := by
  unfold firstHit?
  rw [← findIdx?_uncounted v.points, ← findIdx?_uncounted w.points, alike.points]

/-- An access is noted alike. -/
theorem Alike.observe (alike : v.Alike w) (address : UInt16) (made : WatchKind) (byte : UInt8)
    (previous : Option UInt8) :
    (v.observe address made byte previous).next.Alike (w.observe address made byte previous).next ∧
      (v.observe address made byte previous).report =
        (w.observe address made byte previous).report := by
  have first := alike.firstHit address made byte previous
  unfold WatchList.observe hasHit
  dsimp only
  rw [first, alike.hit]
  refine ⟨⟨?_, rfl⟩, rfl⟩
  dsimp only
  rw [List.map_map, List.map_map, uncounted_count]
  exact alike.points

end WatchList

/-! ## Twins -/

/-- Two devices with the same guest and budget, in surroundings that behave alike. Whether the last
runs ended at marks is compared by `marks`. -/
structure Twin (marks : Bool → Bool → Prop) (d e : Device) : Prop where
  variant : d.variant = e.variant
  guest : d.guest = e.guest
  budget : d.budget = e.budget
  breakpoints : d.breakpoints = e.breakpoints
  watches : d.watches.Alike e.watches
  bench : d.bench.Twins e.bench
  marks : marks d.breakpointHit e.breakpointHit

namespace Twin

variable {marks : Bool → Bool → Prop}

theorem samePart : SamePart (Twin marks) where
  variant := Twin.variant
  guest := Twin.guest
  withGuest guest twin := { twin with guest := rfl }
  add entry twin := { twin with bench := twin.bench.add entry, guest := twin.guest }
  sample index mask := by
    intro d e twin
    obtain ⟨pins, after⟩ := twin.bench.sample index mask
    exact ⟨pins, { twin with bench := after, guest := twin.guest }⟩
  observe address made byte previous := by
    intro d e twin
    obtain ⟨after, report⟩ := twin.watches.observe address made byte previous
    refine ⟨rfl, { twin with watches := after, bench := ?_, guest := twin.guest }⟩
    have noted (entries : List Entry) {b c : Bench} (twins : b.Twins c) :
        (b.record entries).Twins (c.record entries) := by
      induction entries generalizing b c with
      | nil => exact twins
      | cons entry entries ih => exact ih (twins.add entry)
    unfold Device.observe
    rw [modify_apply, modify_apply]
    dsimp only
    rw [report]
    exact noted _ twin.bench

theorem congruent : Congruent (Twin marks) :=
  samePart.congruent

theorem paced (reflexive : ∀ hit, marks hit hit) : Paced (Twin marks) where
  toClocked := congruent.clocked
  budget := Twin.budget
  breakpoints := Twin.breakpoints
  hasHit twin := congrArg Option.isSome twin.watches.hit
  setBudget _ twin := { twin with budget := rfl, guest := twin.guest }
  setBreakpointHit hit twin := { twin with marks := reflexive hit, guest := twin.guest }

/-- A run forgets how the one before it ended, so that it ends at marks on both devices or on
none. -/
theorem ranAlike {d e : Device} (cycles : UInt64) (twin : Twin marks d e) :
    (Device.execute cycles d).2.breakpointHit = (Device.execute cycles e).2.breakpointHit := by
  have begun : Twin Eq d { e with breakpointHit := d.breakpointHit } :=
    { twin with marks := rfl, guest := twin.guest }
  have ended := ((paced fun _ => rfl).execute cycles begun).2.marks
  exact ended

/-- Twins answer every operation alike and stay twins. -/
theorem hosted : Hosted (Twin fun _ _ => True) where
  toPaced := paced fun _ => trivial
  ranAlike := ranAlike
  start := congruent.start
  setInputLine := congruent.setInputLine
  glance address := congruent.read address .debugger
  patch address byte := samePart.write address byte .debugger
  setRegister := congruent.setRegister
  symbolLines := congruent.symbolLines
  takeHit := by
    intro d e twin
    have hit : d.watches.hit = e.watches.hit := twin.watches.hit
    refine ⟨hit, { twin with watches := ⟨twin.watches.points, rfl⟩, guest := twin.guest }⟩

end Twin

/-! ## Restoring -/

/-- An image of the whole memory covers all of it. -/
theorem Memory.overlay_image (under stored : Memory) :
    under.overlay 0 stored.image.toArray = stored := by
  have bytes : (under.overlay 0 stored.image.toArray).bytes = stored.bytes := by
    apply Vector.ext
    intro i inside
    have covered : 0 ≤ i ∧ i - 0 < stored.image.toArray.size := by
      unfold image
      rw [Vector.size_toArray]
      exact ⟨Nat.zero_le i, inside⟩
    unfold overlay
    dsimp only
    rw [Vector.getElem_ofFn, dif_pos covered]
    exact Vector.getElem_toArray _
  exact congrArg Memory.mk bytes

namespace Device

/-- Restoring the registers of ports in range gives the ports back, on the same bonded pins. -/
theorem restoredPorts_snapshot {source target : Device}
    (ports : source.ports.InRange true)
    (bonded : ∀ index : PortIndex,
      (target.ports.get index).bonded = (source.ports.get index).bonded) :
    target.restoredPorts source.snapshot.ports = source.ports := by
  apply Vector.ext
  intro i inside
  let index : PortIndex := ⟨i, inside⟩
  have input : source.snapshot.ports.input.get index = (source.ports.get index).input :=
    Vector.getElem_map _ _
  have latch : source.snapshot.ports.latch.get index = (source.ports.get index).latch :=
    Vector.getElem_map _ _
  have direction : source.snapshot.ports.direction.get index = (source.ports.get index).direction :=
    Vector.getElem_map _ _
  have within := ports.bonded rfl index
  refine (restoredPorts_get target source.snapshot.ports index).trans ?_
  change Port.mk (target.ports.get index).bonded (source.snapshot.ports.input.get index)
    (source.snapshot.ports.latch.get index)
    (source.snapshot.ports.direction.get index &&& (target.ports.get index).bonded) =
    source.ports.get index
  rw [input, latch, direction, bonded index, within]

/-- A restored device has the guest of the original. -/
theorem guest_restore {source target : Device} (reachable : Reachable source)
    (started : source.started = true)
    (bonded : ∀ index : PortIndex,
      (target.ports.get index).bonded = (source.ports.get index).bonded) :
    (restore source.snapshot target).2.guest = source.guest := by
  obtain ⟨_, peripherals, settled⟩ := reachable.sound
  have ports := peripherals.ports
  rw [started] at ports
  have timer := peripherals.timer.masked_eq
  have watchdog := peripherals.watchdog.masked_eq
  have restored := restoredPorts_snapshot ports bonded
  have memory := Memory.overlay_image target.memory source.memory
  have pending : mirrored source.pending source.timer.requests = source.pending :=
    reachable.mirrors.symm
  change Guest.mk source.cpu (target.memory.overlay 0 source.memory.image.toArray)
      (target.restoredPorts source.snapshot.ports) source.timer.masked
      (source.watchdog.masked.switchFixed source.watchdog.fixedEnabled).next
      (mirrored source.pending source.timer.masked.requests) source.lineAsserted true false =
    source.guest
  rw [memory, restored, timer, watchdog, pending]
  unfold guest
  rw [started, settled]
  rfl

end Device

/-! ## Transcripts -/

/-- Makes an operation and notes its answer, the entries it leaves on the trace, and a snapshot of
the device afterwards. -/
def Operation.noted (operation : Operation) (device : Device) :
    (Answer × List Entry × Snapshot) × Device :=
  let ran := operation.run { device with bench := device.bench.takeTrace.2 }
  ((ran.1, ran.2.bench.takeTrace.1, ran.2.snapshot), ran.2)

/-- What a host sees of a device over a sequence of operations. -/
def transcript : List Operation → Device → List (Answer × List Entry × Snapshot)
  | [], _ => []
  | operation :: operations, device =>
    (operation.noted device).1 :: transcript operations (operation.noted device).2

/-- A snapshot is taken of the guest and the budget. -/
theorem Device.snapshot_of_guest {d e : Device} (guest : d.guest = e.guest)
    (budget : d.budget = e.budget) : d.snapshot = e.snapshot := by
  have cpu : d.cpu = e.cpu := congrArg Guest.cpu guest
  have memory : d.memory = e.memory := congrArg Guest.memory guest
  have ports : d.ports = e.ports := congrArg Guest.ports guest
  have timer : d.timer = e.timer := congrArg Guest.timer guest
  have watchdog : d.watchdog = e.watchdog := congrArg Guest.watchdog guest
  have pending : d.pending = e.pending := congrArg Guest.pending guest
  have line : d.lineAsserted = e.lineAsserted := congrArg Guest.lineAsserted guest
  unfold Device.snapshot
  rw [cpu, memory, ports, timer, watchdog, pending, line, budget]

theorem Twin.snapshot {marks : Bool → Bool → Prop} {d e : Device} (twin : Twin marks d e) :
    d.snapshot = e.snapshot :=
  Device.snapshot_of_guest twin.guest twin.budget

/-- Emptying the traces makes twins of devices that are twins but for what was seen of them. -/
theorem Twin.transcript {d e : Device} (twin : Twin (fun _ _ => True)
      { d with bench := d.bench.takeTrace.2 } { e with bench := e.bench.takeTrace.2 })
    (operations : List Operation) :
    M68HC05.transcript operations d = M68HC05.transcript operations e := by
  induction operations generalizing d e with
  | nil => rfl
  | cons operation operations ih =>
    obtain ⟨answer, after⟩ := Twin.hosted.operation operation twin
    have entries : (operation.run { d with bench := d.bench.takeTrace.2 }).2.bench.takeTrace.1 =
        (operation.run { e with bench := e.bench.takeTrace.2 }).2.bench.takeTrace.1 :=
      congrArg List.reverse after.bench.trace
    have next : (operation.noted d).1 = (operation.noted e).1 := by
      unfold Operation.noted
      dsimp only
      rw [answer, entries, after.snapshot]
    have emptied : Twin (fun _ _ => True)
        { (operation.noted d).2 with bench := (operation.noted d).2.bench.takeTrace.2 }
        { (operation.noted e).2 with bench := (operation.noted e).2.bench.takeTrace.2 } :=
      { after with
        guest := after.guest
        bench := ⟨⟨after.bench.alike.sources, after.bench.alike.outputs,
          after.bench.alike.compareWired, after.bench.alike.acknowledgeWired⟩, rfl⟩ }
    rw [M68HC05.transcript, M68HC05.transcript, next, ih emptied]

/-- A restored device lives on as the original. Take a snapshot of any started device that a host
can come by, and restore it into any device of the same part with the same bonded pins. If the
boards behave alike from then on and the marks are the same, then every sequence of operations gives
the same answers, the same entries on the trace and the same snapshots on both. -/
theorem Reachable.restored_lives_on {source target : Device} (reachable : Reachable source)
    (started : source.started = true) (variant : target.variant = source.variant)
    (bonded : ∀ index : PortIndex,
      (target.ports.get index).bonded = (source.ports.get index).bonded)
    (boards : target.bench.Alike source.bench)
    (breakpoints : target.breakpoints = source.breakpoints)
    (watches : target.watches.Alike source.watches) (operations : List Operation) :
    transcript operations (Device.restore source.snapshot target).2 =
      transcript operations source := by
  have guest := Device.guest_restore reachable started bonded
  have sameVariant : (Device.restore source.snapshot target).2.variant = target.variant := rfl
  have budget : (Device.restore source.snapshot target).2.budget = source.budget := rfl
  have sameBreakpoints :
      (Device.restore source.snapshot target).2.breakpoints = target.breakpoints := rfl
  have sameWatches : (Device.restore source.snapshot target).2.watches = target.watches := rfl
  have bench : (Device.restore source.snapshot target).2.bench =
      target.bench.add (.remark (.fixedWatchdogSwitched source.watchdog.fixedEnabled)) := rfl
  generalize (Device.restore source.snapshot target).2 = restored at *
  apply Twin.transcript
  exact {
    variant := sameVariant.trans variant
    guest := guest
    budget := budget
    breakpoints := sameBreakpoints.trans breakpoints
    watches := by
      dsimp only
      rw [sameWatches]
      exact watches
    bench := by
      dsimp only
      rw [bench]
      exact ⟨⟨boards.sources, boards.outputs, boards.compareWired, boards.acknowledgeWired⟩, rfl⟩
    marks := trivial }

/-- A device that was brought up from a snapshot, and its own snapshot in a new device with another
oscillator. -/
theorem Reachable.restored_lives_on_in_new_device :
    Reachable (Device.restore (Device.new .c8a 4000000).snapshot (.new .c8a 4000000)).2 ∧
      transcript [.step, .setInputLine .interrupt true, .execute 1000, .read 0x0013 .program]
          (Device.restore
            (Device.restore (Device.new .c8a 4000000).snapshot (.new .c8a 4000000)).2.snapshot
            (.new .c8a 2000000)).2 =
        transcript [.step, .setInputLine .interrupt true, .execute 1000, .read 0x0013 .program]
          (Device.restore (Device.new .c8a 4000000).snapshot (.new .c8a 4000000)).2 := by
  have fresh := Reachable.new .c8a 4000000
  have reachable := Reachable.restore fresh fresh
  have bonded (index : PortIndex) : ((Device.new .c8a 2000000).ports.get index).bonded =
      ((Device.restore (Device.new .c8a 4000000).snapshot
        (.new .c8a 4000000)).2.ports.get index).bonded :=
    (congrArg Port.bonded (Device.restoredPorts_get (.new .c8a 4000000)
      (Device.new .c8a 4000000).snapshot.ports index)).symm
  have boards : (Device.new .c8a 2000000).bench.Alike
      (Device.restore (Device.new .c8a 4000000).snapshot (.new .c8a 4000000)).2.bench :=
    ⟨fun _ _ => rfl, rfl, rfl, rfl⟩
  refine ⟨reachable, Reachable.restored_lives_on reachable ?_ ?_ bonded boards ?_ ?_ _⟩
  · rfl
  · rfl
  · rfl
  · exact ⟨rfl, rfl⟩

end M68HC05
