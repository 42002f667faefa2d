import M68HC05.Compressor
import M68HC05.Snapshot.Payload

/-!
Saved states: a header of nine bytes (the magic letters, the format version as a number of four
bytes, the identifier of the part) and the compressed payload. A saved state is accepted only for
the part that saved it; the checks are made in the order in which the fields lie, and what follows
the payload is not looked at. The compressor is the host's.
-/

namespace M68HC05.Snapshot

/-- The first bytes of a saved state. -/
def magic : List UInt8 := [0x48, 0x43, 0x30, 0x35]

/-- Bytes before the payload. -/
def headerSize : Nat := 9

/-- The header of a state that a part saves. -/
def header (variant : Variant) : List UInt8 :=
  magic ++ Coder.word32.encode stateVersion ++ [variant.id]

variable [Compressor]

/-- The saved state of a part. -/
def encode (snapshot : Snapshot) (variant : Variant) : List UInt8 :=
  header variant ++ Compressor.compress (Coder.snapshot.encode snapshot)

/-- The payload of a saved state for the part `expected`. -/
def openContainer (bytes : List UInt8) (expected : Variant) : Except Failure (List UInt8) :=
  match bytes with
  | m0 :: m1 :: m2 :: m3 :: v0 :: v1 :: v2 :: v3 :: id :: stream =>
    let version := UInt32.ofNat (Coder.ofLittleEndian [v0, v1, v2, v3])
    if [m0, m1, m2, m3] ≠ magic then .error .badMagic
    else if version ≠ stateVersion then .error (.badVersion version)
    else if id ≠ expected.id then .error (.variantMismatch (Variant.ofId? id) expected)
    else (Compressor.expand stream).mapError .stream
  | _ => .error .truncated

/-- The snapshot in a saved state of the part `expected`. -/
def decode (bytes : List UInt8) (expected : Variant) : Except Failure Snapshot :=
  match openContainer bytes expected with
  | .error failure => .error failure
  | .ok payload =>
    match Coder.snapshot.decode payload with
    | .ok (snapshot, _) => .ok snapshot
    | .error fault => .error (.payload fault)

end M68HC05.Snapshot
