import M68HC05.Proofs.Overwriting
import M68HC05.Proofs.Streams
import M68HC05.Storage.Directory

/-!
What makes an operation of a host fail, and what the failure leaves behind. The bytes of a saved
state are checked in the order of its parts, and a failure tells the first part that is not in order
(`Snapshot.decode_classified`). What is a compressed stream and what is not depends on the format of
the host's compressor, which is assumed to read it (`Compressor.Reads`). Operations change a device
in place; each of those that can fail is refused before its first change, so that it is made as a
whole or not at all (`Device.AllOrNothing`).
-/

namespace M68HC05

/-! ## The verdict on a saved state -/

namespace Snapshot

variable {IsStream : List UInt8 → List UInt8 → Prop} {bytes : List UInt8} {part : Variant}
  {outcome : Except Failure Snapshot}

/-- The version that a header tells. -/
def versionIn (bytes : List UInt8) : UInt32 :=
  .ofNat (Coder.ofLittleEndian ((bytes.drop 4).take 4))

/-- The identifier of a part that a header tells. -/
def idIn (bytes : List UInt8) : UInt8 :=
  bytes.getD 8 0

/-- The header is that of a state which the part has saved. -/
structure Addressed (bytes : List UInt8) (part : Variant) : Prop where
  whole : headerSize ≤ bytes.length
  known : bytes.take 4 = magic
  current : versionIn bytes = stateVersion
  own : idIn bytes = part.id

/-- Bytes hold a complete stream of a payload behind the header, with anything after it. -/
def Holds (IsStream : List UInt8 → List UInt8 → Prop) (bytes payload : List UInt8) : Prop :=
  ∃ stream, stream <+: bytes.drop headerSize ∧ IsStream stream payload

/-- What becomes of bytes that are offered to a part, by what they are in a format of streams. Each
failure excludes the ones before it. -/
structure Classified (IsStream : List UInt8 → List UInt8 → Prop) (bytes : List UInt8)
    (part : Variant) (outcome : Except Failure Snapshot) : Prop where
  truncated : outcome = .error .truncated ↔ bytes.length < headerSize
  badMagic : outcome = .error .badMagic ↔ headerSize ≤ bytes.length ∧ bytes.take 4 ≠ magic
  badVersion (found : UInt32) : outcome = .error (.badVersion found) ↔
    headerSize ≤ bytes.length ∧ bytes.take 4 = magic ∧
      versionIn bytes = found ∧ found ≠ stateVersion
  variantMismatch (saved : Option Variant) (current : Variant) :
    outcome = .error (.variantMismatch saved current) ↔
      headerSize ≤ bytes.length ∧ bytes.take 4 = magic ∧ versionIn bytes = stateVersion ∧
        idIn bytes ≠ part.id ∧ saved = Variant.ofId? (idIn bytes) ∧ current = part
  stream : (∃ fault, outcome = .error (.stream fault)) ↔
    Addressed bytes part ∧ ¬ ∃ payload, Holds IsStream bytes payload
  payload : (∃ fault, outcome = .error (.payload fault)) ↔
    Addressed bytes part ∧ ∃ payload, Holds IsStream bytes payload ∧
      ¬ ∃ snapshot, Coder.snapshot.encode snapshot <+: payload
  ok (snapshot : Snapshot) : outcome = .ok snapshot ↔
    Addressed bytes part ∧ ∃ payload, Holds IsStream bytes payload ∧
      Coder.snapshot.encode snapshot <+: payload

section

variable [Compressor]

/-- The course of the checks on bytes that are offered to a part. -/
inductive Verdict (bytes : List UInt8) (part : Variant) : Except Failure Snapshot → Prop where
  | truncated (short : bytes.length < headerSize) : Verdict bytes part (.error .truncated)
  | badMagic (whole : headerSize ≤ bytes.length) (other : bytes.take 4 ≠ magic) :
    Verdict bytes part (.error .badMagic)
  | badVersion (whole : headerSize ≤ bytes.length) (known : bytes.take 4 = magic)
      (other : versionIn bytes ≠ stateVersion) :
    Verdict bytes part (.error (.badVersion (versionIn bytes)))
  | variantMismatch (whole : headerSize ≤ bytes.length) (known : bytes.take 4 = magic)
      (current : versionIn bytes = stateVersion) (other : idIn bytes ≠ part.id) :
    Verdict bytes part (.error (.variantMismatch (Variant.ofId? (idIn bytes)) part))
  | stream {fault : StreamFault} (addressed : Addressed bytes part)
      (broken : Compressor.expand (bytes.drop headerSize) = .error fault) :
    Verdict bytes part (.error (.stream fault))
  | payload {payload : List UInt8} {fault : PayloadFault} (addressed : Addressed bytes part)
      (expands : Compressor.expand (bytes.drop headerSize) = .ok payload)
      (broken : Coder.snapshot.decode payload = .error fault) :
    Verdict bytes part (.error (.payload fault))
  | ok {payload : List UInt8} {snapshot : Snapshot} {rest : List UInt8}
      (addressed : Addressed bytes part)
      (expands : Compressor.expand (bytes.drop headerSize) = .ok payload)
      (decoded : Coder.snapshot.decode payload = .ok (snapshot, rest)) :
    Verdict bytes part (.ok snapshot)

theorem openContainer_of_short (short : bytes.length < headerSize) :
    openContainer bytes part = .error .truncated := by
  unfold openContainer
  split
  · unfold headerSize at short
    simp only [List.length_cons] at short
    omega
  · rfl

theorem openContainer_of_whole (whole : headerSize ≤ bytes.length) :
    openContainer bytes part =
      if bytes.take 4 ≠ magic then .error .badMagic
      else if versionIn bytes ≠ stateVersion then .error (.badVersion (versionIn bytes))
      else if idIn bytes ≠ part.id then
        .error (.variantMismatch (Variant.ofId? (idIn bytes)) part)
      else (Compressor.expand (bytes.drop headerSize)).mapError .stream := by
  unfold openContainer
  split
  · rfl
  · rename_i other
    have long : 9 ≤ bytes.length := whole
    have fields : bytes = bytes[0] :: bytes[1] :: bytes[2] :: bytes[3] :: bytes[4] :: bytes[5] ::
        bytes[6] :: bytes[7] :: bytes[8] :: bytes.drop 9 := by
      simp only [List.getElem_cons_drop, List.drop_zero]
    exact (other _ _ _ _ _ _ _ _ _ _ fields).elim

theorem openContainer_of_addressed (addressed : Addressed bytes part) :
    openContainer bytes part = (Compressor.expand (bytes.drop headerSize)).mapError .stream := by
  rw [openContainer_of_whole addressed.whole, if_neg (not_not_intro addressed.known),
    if_neg (not_not_intro addressed.current), if_neg (not_not_intro addressed.own)]

theorem decode_of_closed {failure : Failure} (closed : openContainer bytes part = .error failure) :
    decode bytes part = .error failure := by
  unfold decode
  rw [closed]

/-- Every verdict is the outcome. -/
theorem Verdict.decode_eq (verdict : Verdict bytes part outcome) : decode bytes part = outcome := by
  cases verdict with
  | truncated short => exact decode_of_closed (openContainer_of_short short)
  | badMagic whole other =>
    refine decode_of_closed ?_
    rw [openContainer_of_whole whole, if_pos other]
  | badVersion whole known other =>
    refine decode_of_closed ?_
    rw [openContainer_of_whole whole, if_neg (not_not_intro known), if_pos other]
  | variantMismatch whole known current other =>
    refine decode_of_closed ?_
    rw [openContainer_of_whole whole, if_neg (not_not_intro known),
      if_neg (not_not_intro current), if_pos other]
  | stream addressed broken =>
    refine decode_of_closed ?_
    rw [openContainer_of_addressed addressed, broken]
    rfl
  | payload addressed expands broken =>
    unfold decode
    rw [openContainer_of_addressed addressed, expands]
    dsimp only [Except.mapError]
    rw [broken]
  | ok addressed expands decoded =>
    unfold decode
    rw [openContainer_of_addressed addressed, expands]
    dsimp only [Except.mapError]
    rw [decoded]

/-- There is a verdict on all bytes. -/
theorem exists_verdict (bytes : List UInt8) (part : Variant) :
    ∃ outcome, Verdict bytes part outcome := by
  by_cases short : bytes.length < headerSize
  · exact ⟨_, .truncated short⟩
  have whole := Nat.le_of_not_lt short
  by_cases known : bytes.take 4 = magic
  case neg => exact ⟨_, .badMagic whole known⟩
  by_cases current : versionIn bytes = stateVersion
  case neg => exact ⟨_, .badVersion whole known current⟩
  by_cases own : idIn bytes = part.id
  case neg => exact ⟨_, .variantMismatch whole known current own⟩
  have addressed : Addressed bytes part := ⟨whole, known, current, own⟩
  rcases expands : Compressor.expand (bytes.drop headerSize) with fault | payload
  · exact ⟨_, .stream addressed expands⟩
  rcases decoded : Coder.snapshot.decode payload with fault | ⟨snapshot, rest⟩
  · exact ⟨_, .payload addressed expands decoded⟩
  · exact ⟨_, .ok addressed expands decoded⟩

/-- What becomes of bytes that are offered to a part is the verdict on them. -/
theorem decode_eq_iff : decode bytes part = outcome ↔ Verdict bytes part outcome := by
  constructor
  · rintro rfl
    obtain ⟨outcome, verdict⟩ := exists_verdict bytes part
    rw [verdict.decode_eq]
    exact verdict
  · exact Verdict.decode_eq

end

theorem holds_iff [Compressor] (reads : Compressor.Reads IsStream) {payload : List UInt8} :
    Holds IsStream bytes payload ↔ Compressor.expand (bytes.drop headerSize) = .ok payload :=
  reads.expand_eq_ok_iff.symm

/-- A payload decodes exactly if an encoding is at its front. -/
theorem payload_decodes_iff {payload : List UInt8} {snapshot : Snapshot} :
    (∃ rest, Coder.snapshot.decode payload = .ok (snapshot, rest)) ↔
      Coder.snapshot.encode snapshot <+: payload := by
  constructor
  · rintro ⟨rest, decoded⟩
    exact ⟨rest, (Coder.exact_snapshot.eq_encode decoded).symm⟩
  · rintro ⟨rest, rfl⟩
    exact ⟨rest, Coder.exact_snapshot.decode_encode snapshot rest⟩

theorem decode_classified [Compressor] (reads : Compressor.Reads IsStream) (bytes : List UInt8)
    (part : Variant) : Classified IsStream bytes part (decode bytes part) where
  truncated := by
    refine decode_eq_iff.trans ⟨fun verdict => ?_, .truncated⟩
    cases verdict
    assumption
  badMagic := by
    refine decode_eq_iff.trans ⟨fun verdict => ?_, fun ⟨whole, other⟩ => .badMagic whole other⟩
    cases verdict with
    | badMagic whole other => exact ⟨whole, other⟩
  badVersion found := by
    refine decode_eq_iff.trans ⟨fun verdict => ?_, ?_⟩
    · cases verdict with
      | badVersion whole known other => exact ⟨whole, known, rfl, other⟩
    · rintro ⟨whole, known, rfl, other⟩
      exact .badVersion whole known other
  variantMismatch saved current := by
    refine decode_eq_iff.trans ⟨fun verdict => ?_, ?_⟩
    · cases verdict with
      | variantMismatch whole known current other => exact ⟨whole, known, current, other, rfl, rfl⟩
    · rintro ⟨whole, known, current, other, rfl, rfl⟩
      exact .variantMismatch whole known current other
  stream := by
    constructor
    · rintro ⟨fault, refused⟩
      cases decode_eq_iff.mp refused with
      | stream addressed broken =>
        refine ⟨addressed, fun ⟨payload, holds⟩ => ?_⟩
        rw [(holds_iff reads).mp holds] at broken
        cases broken
    · rintro ⟨addressed, empty⟩
      rcases expands : Compressor.expand (bytes.drop headerSize) with fault | payload
      · exact ⟨fault, decode_eq_iff.mpr (.stream addressed expands)⟩
      · exact absurd ⟨payload, (holds_iff reads).mpr expands⟩ empty
  payload := by
    constructor
    · rintro ⟨fault, refused⟩
      cases decode_eq_iff.mp refused with
      | payload addressed expands broken =>
        refine ⟨addressed, _, (holds_iff reads).mpr expands, fun ⟨snapshot, front⟩ => ?_⟩
        obtain ⟨rest, decoded⟩ := payload_decodes_iff.mpr front
        rw [decoded] at broken
        cases broken
    · rintro ⟨addressed, payload, holds, foreign⟩
      rcases decoded : Coder.snapshot.decode payload with fault | ⟨snapshot, rest⟩
      · exact ⟨fault, decode_eq_iff.mpr (.payload addressed ((holds_iff reads).mp holds) decoded)⟩
      · exact absurd ⟨snapshot, payload_decodes_iff.mp ⟨rest, decoded⟩⟩ foreign
  ok snapshot := by
    constructor
    · intro accepted
      cases decode_eq_iff.mp accepted with
      | ok addressed expands decoded =>
        exact ⟨addressed, _, (holds_iff reads).mpr expands, payload_decodes_iff.mp ⟨_, decoded⟩⟩
    · rintro ⟨addressed, payload, holds, front⟩
      obtain ⟨rest, decoded⟩ := payload_decodes_iff.mpr front
      exact decode_eq_iff.mpr (.ok addressed ((holds_iff reads).mp holds) decoded)

end Snapshot

/-! ## Changes in place

The operations of a device answer a new device or a failure. A host changes the one device that it
has, so that a failure after the first change would leave the device changed. Here the operations are
made in this way; that they answer what the operations of the device answer is in `setBondedPins_eq`,
`loadImage_eq_adopted` and `loadFrom_eq`. -/

namespace Device

open M68HC05.Action

/-- An operation in place that is refused has not changed the device. -/
def AllOrNothing (operation : Action (Except Failure Unit)) : Prop :=
  ∀ (device : Device) (failure : Failure),
    (operation device).1 = .error failure → (operation device).2 = device

/-- The device that a host goes on with after an operation in place, unless that was refused. -/
def adopted : Except Failure Unit × Device → Except Failure Device
  | (.ok (), after) => .ok after
  | (.error failure, _) => .error failure

/-- Replaces the bonded pins in place. -/
def bondInPlace (bonded : Vector UInt8 4) : Action (Except Failure Unit) := do
  if (← get).started then return .error .alreadyConfigured
  modify fun device => { device with ports := device.ports.setBonded bonded }
  return .ok ()

/-- Copies an image into the memory in place. -/
def loadImageInPlace (offset : UInt16) (image : Array UInt8) : Action (Except Failure Unit) := do
  if addressSpace < offset.toNat + image.size then
    return .error (.imageOverflow offset image.size)
  modify fun device => { device with memory := device.memory.overlay offset.toNat image }
  return .ok ()

/-- Restores a device in place from what was found in the file at a path. -/
def loadInPlace [Compressor] (path : String) (found : Except FileFault (List UInt8)) :
    Action (Except Failure Unit) := do
  match found with
  | .error fault => return .error (.file fault)
  | .ok bytes =>
    match Snapshot.decode bytes (← get).variant with
    | .error failure => return .error failure
    | .ok snapshot =>
      restore snapshot
      remark (.stateLoaded path)
      return .ok ()

/-- An operation is barred on some devices, and makes a change on the others. -/
def Guarded (operation : Action (Except Failure Unit)) (bars : Device → Prop)
    [DecidablePred bars] (failure : Failure) (change : Device → Device) : Prop :=
  ∀ device, operation device =
    if bars device then (.error failure, device) else (.ok (), change device)

theorem guarded_bondInPlace (bonded : Vector UInt8 4) :
    Guarded (bondInPlace bonded) (·.started = true) .alreadyConfigured fun device =>
      { device with ports := device.ports.setBonded bonded } := by
  intro device
  unfold bondInPlace
  rw [bind_apply, get_apply, Action.ite_apply]
  rfl

theorem guarded_loadImageInPlace (offset : UInt16) (image : Array UInt8) :
    Guarded (loadImageInPlace offset image) (fun _ => addressSpace < offset.toNat + image.size)
      (.imageOverflow offset image.size) fun device =>
        { device with memory := device.memory.overlay offset.toNat image } := by
  intro device
  unfold loadImageInPlace
  rw [Action.ite_apply]
  rfl

theorem loadInPlace_apply [Compressor] (path : String) (bytes : List UInt8) (device : Device) :
    loadInPlace path (.ok bytes) device =
      match Snapshot.decode bytes device.variant with
      | .error failure => (.error failure, device)
      | .ok snapshot => (.ok (), (remark (.stateLoaded path) (restore snapshot device).2).2) := by
  unfold loadInPlace
  dsimp only
  rw [bind_apply, get_apply]
  dsimp only
  cases Snapshot.decode bytes device.variant with
  | error failure => rfl
  | ok snapshot => rfl

/-! ## In place and as functions -/

theorem setBondedPins_eq (bonded : Vector UInt8 4) (device : Device) :
    device.setBondedPins bonded = adopted (bondInPlace bonded device) := by
  unfold setBondedPins
  rw [guarded_bondInPlace bonded device]
  split <;> rfl

theorem loadImage_eq_adopted (offset : UInt16) (image : Array UInt8) (device : Device) :
    device.loadImage offset image = adopted (loadImageInPlace offset image device) := by
  rw [loadImage_eq, guarded_loadImageInPlace offset image device]
  by_cases overflows : addressSpace < offset.toNat + image.size
  · rw [if_pos overflows, if_neg (Nat.not_le_of_lt overflows)]
    rfl
  · rw [if_neg overflows, if_pos (Nat.le_of_not_lt overflows)]
    rfl

theorem loadFrom_eq [Compressor] {m : Type → Type} [Monad m] [LawfulMonad m] [Storage m]
    (path : String) (device : Device) :
    (device.loadFrom path : m (Except Failure Device)) =
      (fun found => adopted (loadInPlace path found device)) <$> Storage.readFile path := by
  rw [map_eq_pure_bind]
  unfold loadFrom
  congr 1
  funext found
  rcases found with fault | bytes
  · rfl
  · unfold restoreBytes
    dsimp only
    rw [loadInPlace_apply]
    cases Snapshot.decode bytes device.variant with
    | error failure => rfl
    | ok snapshot => rfl

/-! ## All or nothing -/

namespace Guarded

variable {operation : Action (Except Failure Unit)} {bars : Device → Prop} [DecidablePred bars]
  {failure : Failure} {change : Device → Device}

/-- An operation that is barred before it changes anything is all or nothing. -/
theorem allOrNothing (guarded : Guarded operation bars failure change) :
    AllOrNothing operation := by
  intro device _ refused
  rw [guarded device] at refused ⊢
  by_cases barred : bars device
  · rw [if_pos barred]
  · rw [if_neg barred] at refused
    cases refused

theorem refused_iff (guarded : Guarded operation bars failure change) (device : Device) :
    (∃ reason, (operation device).1 = .error reason) ↔ bars device := by
  rw [guarded device]
  by_cases barred : bars device
  · rw [if_pos barred]
    exact ⟨fun _ => barred, fun _ => ⟨failure, rfl⟩⟩
  · rw [if_neg barred]
    exact ⟨fun ⟨_, refused⟩ => (nomatch refused), fun holds => absurd holds barred⟩

theorem changed (guarded : Guarded operation bars failure change) {device : Device}
    (done : (operation device).1 = .ok ()) : (operation device).2 = change device := by
  rw [guarded device] at done ⊢
  by_cases barred : bars device
  · rw [if_pos barred] at done
    cases done
  · rw [if_neg barred]

end Guarded

theorem allOrNothing_loadInPlace [Compressor] (path : String)
    (found : Except FileFault (List UInt8)) : AllOrNothing (loadInPlace path found) := by
  intro device failure refused
  rcases found with fault | bytes
  · rfl
  · rw [loadInPlace_apply] at refused ⊢
    cases decoded : Snapshot.decode bytes device.variant with
    | error failure => rfl
    | ok snapshot =>
      rw [decoded] at refused
      cases refused

/-- Loading is refused for the fault of the file or the failure of its bytes, and for no other
reason. -/
theorem loadInPlace_refused_iff [Compressor] (path : String)
    (found : Except FileFault (List UInt8)) (device : Device) (failure : Failure) :
    (loadInPlace path found device).1 = .error failure ↔
      (∃ fault, found = .error fault ∧ failure = .file fault) ∨
        ∃ bytes, found = .ok bytes ∧ Snapshot.decode bytes device.variant = .error failure := by
  rcases found with fault | bytes
  · change (Except.error (.file fault) : Except Failure Unit) = .error failure ↔ _
    simp [eq_comm]
  · rw [loadInPlace_apply]
    cases decoded : Snapshot.decode bytes device.variant with
    | error other => simp [decoded]
    | ok snapshot => simp [decoded]

/-- Nothing but the memory is changed by an image, and of that the bytes under the image alone. -/
theorem loadImageInPlace_done {offset : UInt16} {image : Array UInt8} {device : Device}
    (done : (loadImageInPlace offset image device).1 = .ok ()) :
    let after := (loadImageInPlace offset image device).2
    { after with memory := device.memory } = device ∧
    ∀ address : UInt16, address.toNat < addressSpace →
      after.memory.read address =
        if _ : offset.toNat ≤ address.toNat ∧ address.toNat - offset.toNat < image.size then
          image[address.toNat - offset.toNat]
        else device.memory.read address := by
  intro after
  have changed : after = { device with
      memory := device.memory.overlay offset.toNat image } :=
    (guarded_loadImageInPlace offset image).changed done
  rw [changed]
  exact ⟨rfl, fun _ inside => device.memory.read_overlay_from offset.toNat image inside⟩

/-- Take any bytes, part and device, and a compressor that fails on incomplete and invalid streams
and on no others. What becomes of the bytes as a saved state of the part is told by the first of
their parts that is not in order. Loading a file is refused for the fault of the file or for what
its bytes are, loading an image exactly if it does not fit, and bonding pins exactly if the device is
started. An operation that is refused has not changed the device, and an image that is loaded has
changed the bytes under it and nothing else. -/
theorem failures_classified [Compressor] {IsStream : List UInt8 → List UInt8 → Prop}
    (reads : Compressor.Reads IsStream) {m : Type → Type} [Monad m] [LawfulMonad m] [Storage m]
    (device : Device) :
    (∀ (bytes : List UInt8) (part : Variant),
      Snapshot.Classified IsStream bytes part (Snapshot.decode bytes part)) ∧
    (∀ path : String,
      (device.loadFrom path : m (Except Failure Device)) =
        (fun found => adopted (loadInPlace path found device)) <$> Storage.readFile path ∧
      ∀ found : Except FileFault (List UInt8),
        AllOrNothing (loadInPlace path found) ∧
        ∀ failure : Failure, (loadInPlace path found device).1 = .error failure ↔
          (∃ fault, found = .error fault ∧ failure = .file fault) ∨
            ∃ bytes, found = .ok bytes ∧
              Snapshot.decode bytes device.variant = .error failure) ∧
    (∀ (offset : UInt16) (image : Array UInt8),
      let loading := loadImageInPlace offset image
      let after := (loading device).2
      device.loadImage offset image = adopted (loading device) ∧
      AllOrNothing loading ∧
      ((∃ failure, (loading device).1 = .error failure) ↔
        addressSpace < offset.toNat + image.size) ∧
      ((loading device).1 = .ok () →
        { after with memory := device.memory } = device ∧
        ∀ address : UInt16, address.toNat < addressSpace →
          after.memory.read address =
            if _ : offset.toNat ≤ address.toNat ∧
                address.toNat - offset.toNat < image.size then
              image[address.toNat - offset.toNat]
            else device.memory.read address)) ∧
    (∀ bonded : Vector UInt8 4,
      device.setBondedPins bonded = adopted (bondInPlace bonded device) ∧
      AllOrNothing (bondInPlace bonded) ∧
      ((∃ failure, (bondInPlace bonded device).1 = .error failure) ↔
        device.started = true)) := by
  refine ⟨Snapshot.decode_classified reads, fun path => ⟨loadFrom_eq path device, fun found => ?_⟩,
    fun offset image => ?_, fun bonded => ?_⟩
  · exact ⟨allOrNothing_loadInPlace path found, loadInPlace_refused_iff path found device⟩
  · have guarded := guarded_loadImageInPlace offset image
    exact ⟨loadImage_eq_adopted offset image device, guarded.allOrNothing,
      guarded.refused_iff device, loadImageInPlace_done⟩
  · have guarded := guarded_bondInPlace bonded
    exact ⟨setBondedPins_eq bonded device, guarded.allOrNothing, guarded.refused_iff device⟩

/-- A state of another part is refused and leaves the device as it was, and so is a header of the
device's own part that no stream follows. The compressor is that of the runner. -/
theorem failures_classified_of_other_part :
    let stored := (new .c8a 4000000).snapshot.encode .c8a
    let device := new .c4 1000000
    Compressor.Reads Deflate.Closed ∧
      loadInPlace "other.state" (.ok stored) device =
        (.error (.variantMismatch (some .c8a) .c4), device) ∧
      ∃ fault, loadInPlace "cut.state" (.ok (Snapshot.header .c4)) device =
        (.error (.stream fault), device) := by
  intro stored device
  obtain ⟨classified, load, -⟩ :=
    failures_classified Deflate.reads_closed (m := StateM Directory) device
  have refused (path : String) {bytes : List UInt8} {failure : Failure}
      (failed : Snapshot.decode bytes .c4 = .error failure) :
      loadInPlace path (.ok bytes) device = (.error failure, device) := by
    obtain ⟨unchanged, refused_iff⟩ := (load path).2 (.ok bytes)
    have outcome := (refused_iff failure).mpr (.inr ⟨bytes, rfl, failed⟩)
    exact Prod.ext outcome (unchanged device failure outcome)
  have decoded := Snapshot.decode_encode Deflate.expand_compress (new .c8a 4000000).snapshot
    .c8a .c4
  rw [if_neg (by decide)] at decoded
  have streamless : ¬ ∃ payload, Snapshot.Holds Deflate.Closed (Snapshot.header .c4) payload := by
    rintro ⟨payload, stream, front, complete⟩
    obtain rfl : stream = [] := List.prefix_nil.mp front
    cases complete.expands
  have addressed : Snapshot.Addressed (Snapshot.header .c4) .c4 :=
    ⟨by decide, by decide, by decide, by decide⟩
  obtain ⟨fault, cut⟩ := (classified _ _).stream.mpr ⟨addressed, streamless⟩
  exact ⟨Deflate.reads_closed, refused _ decoded, fault, refused _ cut⟩

end Device
end M68HC05
