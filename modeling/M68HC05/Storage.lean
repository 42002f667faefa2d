import M68HC05.Register
import M68HC05.Snapshot.Container

/-!
Whole files, by path. Saving and loading are written over any monad with these two operations, so
that they run on the file system as well as on a directory kept in memory.
-/

namespace M68HC05

/-- Reading and writing whole files. -/
class Storage (m : Type → Type) where
  readFile : String → m (Except FileFault (List UInt8))
  writeFile : String → List UInt8 → m (Except FileFault Unit)

namespace Device

variable [Compressor] {m : Type → Type} [Monad m] [Storage m]

/-- Saves the state of a device to a file. -/
def saveTo (device : Device) (path : String) : m (Except Failure Unit) := do
  match ← Storage.writeFile path (device.snapshot.encode device.variant) with
  | .ok () => return .ok ()
  | .error fault => return .error (.file fault)

/-- Restores a saved state, which has to be of the same part. -/
def restoreBytes (device : Device) (bytes : List UInt8) : Except Failure Device :=
  match Snapshot.decode bytes device.variant with
  | .ok snapshot => .ok (restore snapshot device).2
  | .error failure => .error failure

/-- Restores a device from a file. A failure leaves the device as it was. -/
def loadFrom (device : Device) (path : String) : m (Except Failure Device) := do
  match ← Storage.readFile path with
  | .error fault => return .error (.file fault)
  | .ok bytes =>
    match device.restoreBytes bytes with
    | .error failure => return .error failure
    | .ok restored => return .ok (remark (.stateLoaded path) restored).2

end Device
end M68HC05
