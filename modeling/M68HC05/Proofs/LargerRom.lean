import M68HC05.Proofs.Overwriting
import M68HC05.Proofs.Writes

/-!
The C8 has all that the C4 has, and ROM where the C4 has nothing. A C4 reads 0xFF there, and both
lose what a program writes there; so a C8 whose extra ROM is blank is a C4 to everyone but a debugger
that patches it. A device of either part `Fits` the other if they differ in nothing but the part and
its name on the trace. Reads and program writes go to the same place on both outside the extra ROM
(`Variant.reader_shared`), and inside they come to the same (`Fits.read`, `Fits.write`); the rest is
the walk over the operations that devices with the same guest share.

The main statement is `Device.larger_rom_indistinguishable`.
-/

namespace M68HC05

open M68HC05.Action

/-! ## The extra ROM -/

/-- The addresses that are ROM on the C8 and nothing on the C4. -/
def inExtraRom (address : UInt16) : Bool :=
  0x1100 ≤ address && address ≤ 0x1EFF

theorem inExtraRom_iff (address : UInt16) :
    inExtraRom address = true ↔ 0x1100 ≤ address.toNat ∧ address.toNat ≤ 0x1EFF := by
  simp only [inExtraRom, Bool.and_eq_true, decide_eq_true_eq, UInt16.le_iff_toNat_le]
  rfl

/-- RAM lies below the extra ROM. -/
theorem not_inRam_of_inExtraRom {address : UInt16} (extra : inExtraRom address = true) :
    inRam address = false := by
  have place := (inExtraRom_iff address).mp extra
  refine Bool.eq_false_iff.mpr fun ram => ?_
  have window := (inRam_iff address).mp ram
  omega

namespace Variant

variable {address : UInt16}

/-- The ROM above page zero is the same but for the extra ROM. -/
theorem reader_shared (outside : inExtraRom address = false) :
    c4.addressMap.reader? address = c8.addressMap.reader? address ∧
      c4.addressMap.writer? address = c8.addressMap.writer? address := by
  have holds : (Region.rom 0x0100 0x10FF).contains address =
      (Region.rom 0x0100 0x1EFF).contains address := by
    have place := mt (inExtraRom_iff address).mpr (Bool.eq_false_iff.mp outside)
    rw [Bool.eq_iff_iff]
    simp only [Region.contains, Region.rom, Region.both, Bool.and_eq_true, decide_eq_true_eq,
      UInt16.le_iff_toNat_le, UInt16.reduceToNat]
    omega
  have read : (Region.rom 0x0100 0x10FF).reader? address =
      (Region.rom 0x0100 0x1EFF).reader? address := by
    unfold Region.reader?
    rw [holds]
    rfl
  have write : (Region.rom 0x0100 0x10FF).writer? address =
      (Region.rom 0x0100 0x1EFF).writer? address := by
    unfold Region.writer?
    rw [holds]
    rfl
  simp only [AddressMap.reader?, AddressMap.writer?, addressMap, List.findSome?_append,
    List.findSome?_cons, read, write, and_self]

/-- Accesses to the extra ROM go nowhere on the C4 and to ROM on the C8. -/
theorem reader_extra (inside : inExtraRom address = true) :
    c4.addressMap.reader? address = none ∧ c4.addressMap.writer? address = none ∧
      ∃ offset, c8.addressMap.reader? address = some (.rom, offset) ∧
        c8.addressMap.writer? address = some (.rom, offset) := by
  have place := (inExtraRom_iff address).mp inside
  have passed (map : AddressMap)
      (apart : ∀ region ∈ map, region.last.toNat < 0x1100 ∨ 0x1EFF < region.first.toNat) :
      map.reader? address = none ∧ map.writer? address = none := by
    have off (region : Region) (member : region ∈ map) : region.contains address = false := by
      have bounds := apart region member
      simp only [Region.contains, Bool.and_eq_false_iff, decide_eq_false_iff_not,
        UInt16.le_iff_toNat_le]
      omega
    refine ⟨List.findSome?_eq_none_iff.mpr fun region member => ?_,
      List.findSome?_eq_none_iff.mpr fun region member => ?_⟩
    · rw [Region.reader?, off region member]
      rfl
    · rw [Region.writer?, off region member]
      rfl
  have there : (Region.rom 0x0100 0x1EFF).contains address = true := by
    simp only [Region.contains, Region.rom, Region.both, Bool.and_eq_true, decide_eq_true_eq,
      UInt16.le_iff_toNat_le, UInt16.reduceToNat]
    omega
  obtain ⟨unread, unwritten⟩ := passed c4.addressMap (by decide)
  obtain ⟨below, beneath⟩ := passed (peripheralRegions ++ pageZeroRegions) (by decide)
  refine ⟨unread, unwritten, address - 0x0100, ?_, ?_⟩
  · change (peripheralRegions ++ pageZeroRegions ++ Region.rom 0x0100 0x1EFF :: _).findSome? _ = _
    rw [AddressMap.reader?] at below
    rw [List.findSome?_append, below, List.findSome?_cons, Region.reader?, there]
    rfl
  · change (peripheralRegions ++ pageZeroRegions ++ Region.rom 0x0100 0x1EFF :: _).findSome? _ = _
    rw [AddressMap.writer?] at beneath
    rw [List.findSome?_append, beneath, List.findSome?_cons, Region.writer?, there]
    rfl

end Variant

/-! ## Names on the trace -/

/-- The entry without the name of the part, which a reset puts on the trace. -/
def Entry.unnamed : Entry → Entry
  | .remark (.deviceReset _) => .remark (.deviceReset .c4)
  | entry => entry

/-- The bench without names of parts on the trace. -/
def Bench.unnamed (bench : Bench) : Bench :=
  { bench with trace := bench.trace.map Entry.unnamed }

namespace Bench

theorem unnamed_add (bench : Bench) (entry : Entry) :
    (bench.add entry).unnamed = bench.unnamed.add entry.unnamed := by
  cases entry with
  | remark text =>
    cases text with
    | _ => rfl
  | signal sent =>
    have hears : bench.unnamed.hears sent = bench.hears sent := by
      cases sent with
      | _ => rfl
    change (bench.add (.signal sent)).unnamed = bench.unnamed.add (.signal sent)
    unfold add
    dsimp only
    rw [hears]
    split
    · rfl
    · rfl

theorem sample_unnamed (bench : Bench) (port : PortIndex) (mask : UInt8) :
    bench.unnamed.sample port mask =
      ((bench.sample port mask).1, (bench.sample port mask).2.unnamed) := by
  have wires : bench.unnamed.sources = bench.sources := rfl
  have added : (bench.add (.signal (.sample port mask))).unnamed =
      bench.unnamed.add (.signal (.sample port mask)) :=
    bench.unnamed_add (.signal (.sample port mask))
  unfold sample
  rw [wires]
  rcases bench.sources.get port with _ | source
  · rfl
  · dsimp only
    rw [← added]
    rfl

end Bench

namespace Device

/-- The device without its part and the names of parts on its trace. -/
def unnamed (device : Device) : Device :=
  { device with variant := .c4, bench := device.bench.unnamed }

end Device

/-! ## Devices that fit -/

/-- A C4 and a C8 that differ in their part only, where the extra ROM is blank. -/
structure Fits (d e : Device) : Prop where
  small : d.variant = .c4
  large : e.variant = .c8
  same : d.unnamed = e.unnamed
  blank {address : UInt16} : inExtraRom address = true → d.memory.read address = 0xFF

namespace Fits

variable {d e : Device}

/-- Devices that fit go on to fit if they change alike and outside the extra ROM. -/
theorem next (fits : Fits d e) {d' e' : Device} (small : d'.variant = d.variant)
    (large : e'.variant = e.variant) (same : d'.unnamed = e'.unnamed)
    (extra : ∀ address, inExtraRom address = true →
      d'.memory.read address = d.memory.read address) : Fits d' e' where
  small := small.trans fits.small
  large := large.trans fits.large
  same := same
  blank inside := (extra _ inside).trans (fits.blank inside)

theorem bench (fits : Fits d e) : d.bench.unnamed = e.bench.unnamed :=
  congrArg Device.bench fits.same

theorem guest (fits : Fits d e) : d.guest = e.guest :=
  (congrArg Device.guest fits.same :)

theorem memory (fits : Fits d e) : d.memory = e.memory :=
  (congrArg Device.memory fits.same :)

theorem watches (fits : Fits d e) : d.watches = e.watches :=
  (congrArg Device.watches fits.same :)

/-- Any change of both benches that is the same but for names. -/
theorem rebench (fits : Fits d e) {b c : Bench} (benches : b.unnamed = c.unnamed) :
    Fits { d with bench := b } { e with bench := c } := by
  refine fits.next rfl rfl ?_ fun _ _ => rfl
  change { d.unnamed with bench := b.unnamed } = { e.unnamed with bench := c.unnamed }
  rw [fits.same, benches]

theorem add (fits : Fits d e) {entry entry' : Entry} (names : entry.unnamed = entry'.unnamed) :
    Fits { d with bench := d.bench.add entry } { e with bench := e.bench.add entry' } := by
  refine fits.rebench ?_
  rw [Bench.unnamed_add, Bench.unnamed_add, fits.bench, names]

theorem record (fits : Fits d e) (report : List Entry) :
    Fits { d with bench := d.bench.record report } { e with bench := e.bench.record report } := by
  induction report generalizing d e with
  | nil => exact fits
  | cons entry report ih => exact ih (fits.add rfl)

theorem sameGuest : SameGuest Fits where
  guest := guest
  withGuest {d e} guest kept fits := by
    refine fits.next rfl rfl ?_ fun address _ => ?_
    · change d.unnamed.withGuest guest = e.unnamed.withGuest guest
      rw [fits.same]
    · change guest.memory.read address = d.memory.read address
      rw [kept]
  add entry fits := fits.add rfl
  sample index mask := by
    intro d e fits
    have sampled := d.bench.sample_unnamed index mask
    rw [fits.bench, e.bench.sample_unnamed index mask] at sampled
    obtain ⟨answer, after⟩ := Prod.mk.inj sampled
    exact ⟨answer.symm, fits.rebench after.symm⟩
  observe address made byte previous := by
    intro d e fits
    have lists := fits.watches
    let outcome := d.watches.observe address made byte previous
    have noted : Fits { d with watches := outcome.next } { e with watches := outcome.next } := by
      refine fits.next rfl rfl ?_ fun _ _ => rfl
      change { d.unnamed with watches := outcome.next } = { e.unnamed with watches := outcome.next }
      rw [fits.same]
    have reported := noted.record outcome.report
    refine ⟨rfl, ?_⟩
    unfold Device.observe
    rw [modify_apply, modify_apply]
    dsimp only
    rw [← lists]
    exact reported

/-- RAM takes a byte on both. -/
theorem store {address : UInt16} (ram : inRam address = true) (byte : UInt8) :
    Respects Fits (Device.store address byte) := by
  intro d e fits
  refine ⟨rfl, fits.next rfl rfl ?_ fun other extra => ?_⟩
  · change { d.unnamed with memory := d.memory.write address byte } =
      { e.unnamed with memory := e.memory.write address byte }
    rw [fits.same, fits.memory]
  · refine d.memory.read_write_of_ne byte ?_
    rintro rfl
    rw [not_inRam_of_inExtraRom extra] at ram
    cases ram

/-! ## Accesses -/

/-- The C4 reads 0xFF where the C8 reads its extra ROM. -/
theorem read (address : UInt16) (access : Access) : Respects Fits (Device.read address access) := by
  intro d e fits
  by_cases extra : inExtraRom (busAddress address) = true
  · obtain ⟨nowhere, -, offset, rom, -⟩ := Variant.reader_extra extra
    have answered := sameGuest.report (busAddress address) access 0xFF fits
    have byte : e.memory.read (busAddress address) = 0xFF := by
      rw [← fits.memory]
      exact fits.blank extra
    unfold Device.read
    rw [bind_apply, bind_apply, get_apply, get_apply]
    dsimp only
    rw [fits.small, fits.large, nowhere, rom]
    dsimp only [Device.readHandler]
    rw [bind_apply, bind_apply, bind_apply, get_apply]
    dsimp only
    rw [pure_apply, pure_apply, byte]
    exact answered
  · have shared := Variant.reader_shared (Bool.eq_false_iff.mpr extra)
    rw [← fits.small, ← fits.large] at shared
    exact sameGuest.read_of_reader access fits shared.1

/-- Neither takes what a program writes to the extra ROM. -/
theorem write (address : UInt16) (byte : UInt8) :
    Respects Fits (Device.write address byte .program) := by
  intro d e fits
  by_cases extra : inExtraRom (busAddress address) = true
  · obtain ⟨-, nowhere, offset, -, rom⟩ := Variant.reader_extra extra
    let previous := some (e.memory.read (busAddress address))
    obtain ⟨-, reported⟩ := sameGuest.observe (busAddress address) .write byte previous fits
    have small : (Device.observe (busAddress address) .write byte previous d).2.variant = .c4 :=
      fits.small
    have large : (Device.observe (busAddress address) .write byte previous e).2.variant = .c8 :=
      fits.large
    unfold Device.write Device.passWrite
    simp only [if_true, bind_apply, get_apply, fits.memory, true_and]
    rw [small, large, nowhere, rom]
    exact reported
  · have shared := Variant.reader_shared (Bool.eq_false_iff.mpr extra)
    rw [← fits.small, ← fits.large] at shared
    refine sameGuest.write_of_writer .program fits shared.2 fun handler offset goes stored => ?_
    rcases stored with rfl | ⟨-, other⟩
    · exact store ((e.variant.writer_ram_iff _).mp ⟨offset, goes⟩) byte
    · cases other

/-! ## Operations -/

theorem congruent : Congruent Fits where
  toSameGuest := sameGuest
  read := read
  write := write
  named := by
    intro d e fits
    rw [bind_apply, bind_apply, get_apply, get_apply]
    dsimp only
    rw [fits.small, fits.large]
    exact ⟨rfl, fits.add rfl⟩
  watchdogs fits := by
    rw [fits.small, fits.large]
    rfl
  vectors _ := rfl
  names fits := by
    rw [fits.small, fits.large]
    rfl

theorem paced : Paced Fits where
  toClocked := congruent.clocked
  budget fits := (congrArg Device.budget fits.same :)
  breakpoints fits := (congrArg Device.breakpoints fits.same :)
  hasHit fits := congrArg WatchList.hasHit fits.watches
  setBudget budget fits := fits.next rfl rfl
    (congrArg (fun device : Device => { device with budget }) fits.same) fun _ _ => rfl
  setBreakpointHit breakpointHit fits := fits.next rfl rfl
    (congrArg (fun device : Device => { device with breakpointHit }) fits.same) fun _ _ => rfl

/-- Devices that fit answer everything but patches alike and go on to fit. -/
theorem attended : Attended Fits where
  toPaced := paced
  ranAlike cycles fits := (congrArg Device.breakpointHit (paced.execute cycles fits).2.same :)
  start := congruent.start
  setInputLine := congruent.setInputLine
  glance address := congruent.read address .debugger
  setRegister := congruent.setRegister
  symbolLines := congruent.symbolLines
  takeHit := by
    intro d e fits
    have taken : { d.unnamed with watches := d.watches.takeHit.2 } =
        { e.unnamed with watches := e.watches.takeHit.2 } := by
      rw [fits.same, fits.watches]
    exact ⟨congrArg WatchList.hit fits.watches, fits.next rfl rfl taken fun _ _ => rfl⟩

/-- The snapshots are the same, of a C4 and of a C8. -/
theorem snapshot (fits : Fits d e) : d.snapshot = e.snapshot :=
  Device.snapshot_of_guest fits.guest (paced.budget fits)

theorem runAll {operations : List Operation}
    (unpatched : ∀ operation ∈ operations, operation.patches = false) (fits : Fits d e) :
    Fits (M68HC05.runAll operations d) (M68HC05.runAll operations e) := by
  induction operations generalizing d e with
  | nil => exact fits
  | cons operation operations ih =>
    obtain ⟨first, rest⟩ := List.forall_mem_cons.mp unpatched
    exact ih rest (attended.operation first fits).2

end Fits

/-- What a host sees of an operation, without names of parts. -/
def unnamedSight (sight : Answer × List Entry × Snapshot) : Answer × List Entry × Snapshot :=
  (sight.1, sight.2.1.map Entry.unnamed, sight.2.2)

namespace Fits

variable {d e : Device}

/-- An operation shows the same on both, and leaves them as they are to fit. -/
theorem noted (fits : Fits d e) {operation : Operation} (unpatched : operation.patches = false) :
    unnamedSight (operation.noted d).1 = unnamedSight (operation.noted e).1 ∧
      Fits (operation.noted d).2 (operation.noted e).2 := by
  have emptied : d.bench.takeTrace.2.unnamed = e.bench.takeTrace.2.unnamed :=
    congrArg (fun bench : Bench => { bench with trace := [] }) fits.bench
  obtain ⟨answer, after⟩ := attended.operation unpatched (fits.rebench emptied)
  have entries := congrArg Bench.trace after.bench
  refine ⟨?_, after⟩
  unfold unnamedSight Operation.noted Bench.takeTrace
  dsimp only [Bench.unnamed] at entries ⊢
  unfold Bench.takeTrace at answer after entries
  rw [answer, List.map_reverse, List.map_reverse, entries, after.snapshot]

theorem transcript {operations : List Operation}
    (unpatched : ∀ operation ∈ operations, operation.patches = false) (fits : Fits d e) :
    (M68HC05.transcript operations d).map unnamedSight =
      (M68HC05.transcript operations e).map unnamedSight := by
  induction operations generalizing d e with
  | nil => rfl
  | cons operation operations ih =>
    obtain ⟨first, rest⟩ := List.forall_mem_cons.mp unpatched
    obtain ⟨sight, after⟩ := fits.noted first
    rw [M68HC05.transcript, M68HC05.transcript, List.map_cons, List.map_cons, sight, ih rest after]

end Fits

namespace Device

/-- An image that leaves the extra ROM blank makes the same of a C4 and of a C8 that is like it in
all else: all operations but patches answer alike on both, make the same exchanges with the board and
leave the same snapshot, and the watchpoints count the same. The trace tells them apart by the name
of the part that a reset puts there. -/
theorem larger_rom_indistinguishable {device smaller : Device} (part : device.variant = .c4)
    {offset : UInt16} {image : Array UInt8} (loads : device.loadImage offset image = .ok smaller)
    (blank : ∀ address, inExtraRom address = true → smaller.memory.read address = 0xFF)
    {operations : List Operation}
    (unpatched : ∀ operation ∈ operations, operation.patches = false) :
    ∃ larger, { device with variant := .c8 }.loadImage offset image = .ok larger ∧
      (transcript operations larger).map unnamedSight =
        (transcript operations smaller).map unnamedSight ∧
      (runAll operations larger).watches = (runAll operations smaller).watches := by
  rw [loadImage_eq] at loads ⊢
  by_cases room : offset.toNat + image.size ≤ addressSpace
  · rw [if_pos room] at loads ⊢
    obtain rfl := Except.ok.inj loads
    have fits : Fits { device with memory := device.memory.overlay offset.toNat image }
        { device with variant := .c8, memory := device.memory.overlay offset.toNat image } :=
      ⟨part, rfl, rfl, blank _⟩
    exact ⟨_, rfl, (fits.transcript unpatched).symm, (fits.runAll unpatched).watches.symm⟩
  · rw [if_neg room] at loads
    cases loads

/-- A program at 0x0100 that loads the first byte of the extra ROM, adds one, stores it there again,
and starts over; and its reset vector. -/
def romByte (place : Nat) : UInt8 :=
  if place = 0x1FFE then 0x01
  else if place = 0x1FFF then 0x00
  else if place < 0x0100 then 0xFF
  else [0xC6, 0x11, 0x00, 0x4C, 0xC7, 0x11, 0x00, 0x20, 0xF7].getD (place - 0x0100) 0xFF

/-- The image of the program, all other bytes of which are blank. -/
def romImage : Array UInt8 :=
  .ofFn fun i : Fin addressSpace => romByte i.val

theorem size_romImage : romImage.size = addressSpace := by
  unfold romImage
  exact Array.size_ofFn

theorem read_romImage {address : UInt16} (inside : address.toNat < addressSpace) :
    (Memory.zero.overlay 0 romImage).read address = romByte address.toNat := by
  have there : address.toNat < romImage.size := Nat.lt_of_lt_of_eq inside size_romImage.symm
  have byte : romImage[address.toNat] = romByte address.toNat := Array.getElem_ofFn ..
  rw [Memory.read_overlay _ _ inside, Array.getElem?_eq_getElem there, Option.getD_some, byte]

theorem larger_rom_indistinguishable_to_program :
    let operations : List Operation := [.start, .execute 100, .read 0x1100 .program,
      .write 0x1100 0x55 .program, .read 0x1100 .debugger, .setInputLine .reset true]
    ∃ smaller larger, (new .c4 4000000).loadImage 0 romImage = .ok smaller ∧
      (new .c8 4000000).loadImage 0 romImage = .ok larger ∧
      (transcript operations larger).map unnamedSight =
        (transcript operations smaller).map unnamedSight ∧
      (runAll operations larger).watches = (runAll operations smaller).watches := by
  intro operations
  have room : (0 : UInt16).toNat + romImage.size ≤ addressSpace := by
    rw [size_romImage]
    decide
  have loads : (new .c4 4000000).loadImage 0 romImage =
      .ok { new .c4 4000000 with memory := Memory.zero.overlay 0 romImage } :=
    (loadImage_eq _ 0 romImage).trans (if_pos room)
  have blank (address : UInt16) (extra : inExtraRom address = true) :
      (Memory.zero.overlay 0 romImage).read address = 0xFF := by
    have place := (inExtraRom_iff address).mp extra
    rw [read_romImage (Nat.lt_of_le_of_lt place.2 (by decide)), romByte, if_neg (by omega),
      if_neg (by omega), if_neg (by omega)]
    rw [List.getD_eq_getElem?_getD, List.getElem?_eq_none]
    · rfl
    · simp only [List.length_cons, List.length_nil]
      omega
  have unpatched : ∀ operation ∈ operations, operation.patches = false := by decide
  obtain ⟨larger, loaded, sights, watches⟩ :=
    larger_rom_indistinguishable rfl loads blank unpatched
  exact ⟨_, larger, loads, loaded, sights, watches⟩

end Device
end M68HC05
