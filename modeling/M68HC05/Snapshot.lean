import M68HC05.Device.Run

/-!
Snapshots: the whole state of a device apart from its wiring, the trace and the debugger's marks.
A snapshot can be taken at any time and restored into any device of the same part.
-/

namespace M68HC05

/-- The registers of the ports, each for ports A to D. -/
structure PortRegisters where
  input : Vector UInt8 4
  latch : Vector UInt8 4
  direction : Vector UInt8 4
  deriving DecidableEq

structure Snapshot where
  cpu : Cpu
  pending : UInt16
  lineAsserted : Bool
  budget : Int64
  /-- the memory image; any length can be restored -/
  bytes : ByteString
  ports : PortRegisters
  timer : Timer
  watchdog : Watchdog
  deriving DecidableEq

namespace Device

/-- Takes a snapshot. -/
def snapshot (device : Device) : Snapshot where
  cpu := device.cpu
  pending := device.pending
  lineAsserted := device.lineAsserted
  budget := device.budget
  bytes := device.memory.image
  ports :=
    { input := device.ports.map Port.input
      latch := device.ports.map Port.latch
      direction := device.ports.map Port.direction }
  timer := device.timer
  watchdog := device.watchdog

/-- The ports with the registers of a snapshot. -/
def restoredPorts (device : Device) (registers : PortRegisters) : Ports :=
  .ofFn fun i =>
    (((device.ports.get i).setInput (registers.input.get i)).setLatch
      (registers.latch.get i)).setDirection (registers.direction.get i)

/-- Restores a snapshot. A short memory image leaves the bytes beyond it; the surplus of a long one
is dropped. Peripheral registers are stored within their bits, and the device counts as
started. -/
def restore (snapshot : Snapshot) : Action Unit := do
  modify fun device =>
    { device with
      cpu := snapshot.cpu
      pending := snapshot.pending
      lineAsserted := snapshot.lineAsserted
      budget := snapshot.budget
      resetDue := false
      memory := device.memory.overlay 0 snapshot.bytes.toArray
      ports := device.restoredPorts snapshot.ports
      timer := snapshot.timer.masked
      watchdog := snapshot.watchdog.masked
      started := true }
  onWatchdog (·.switchFixed snapshot.watchdog.fixedEnabled)
  refreshTimerRequest

end Device
end M68HC05
