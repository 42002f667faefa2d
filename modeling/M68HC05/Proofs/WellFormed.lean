import M68HC05.Proofs.CpuRange
import M68HC05.Proofs.DeviceRange

/-!
Well-formed devices. Every device that a host can come by has its registers in their ranges, and a
reset that a watchdog asked for is never left over when an operation ends. The three parts of the
invariant (`CpuInRange`, `PeripheralsInRange`, `Settled`) are kept by all operations, each by its
own argument, and are put together here (`Reachable.wellFormed`).
-/

namespace M68HC05

open M68HC05.Action

namespace Device

/-! ## No reset is left over -/

/-- No reset is waiting to be made. -/
def Settled (device : Device) : Prop :=
  device.resetDue = false

namespace Settled

theorem busFlow : BusFlow (Kept Settled) where
  toFlow := Kept.flow Settled
  cpu _ _ := id
  bench _ _ := id
  watched _ _ _ := id
  readHandler _ access :=
    keeps_of_frame (frame_readHandler _ _ _ access) fun frame => frame.resetDue = false
  writeHandler _ byte access :=
    keeps_of_frame (frame_writeHandler _ _ _ byte access) fun frame => frame.resetDue = false

/-- A reset has been made when it ends. -/
theorem of_reset (device : Device) : (Device.reset device).2.Settled := by
  have latched : Moves (Kept Settled) latchMaskOption := by
    unfold latchMaskOption
    exact Moves.get fun _ => .ite (fun _ _ => id) fun _ _ => id
  have cleared : Settled { device with
      cpu := device.cpu.reset
      pending := 0
      resetDue := false
      ports := device.ports.map Port.reset
      timer := device.timer.reset
      watchdog := device.watchdog.reset
      bench := device.bench.add (.remark (.deviceReset device.variant)) } := rfl
  exact busFlow.jumpThrough resetVector _ (latched _ cleared)

/-- A step ends with the reset that a watchdog asks for in it. -/
theorem of_step (device : Device) : (Device.step device).2.Settled := by
  unfold Device.step
  rw [bind_apply, bind_apply, bind_apply, get_apply]
  generalize (runProcessor (serveInterrupt device).2).2 = turned
  dsimp only
  rw [Action.ite_apply]
  split
  · exact of_reset turned
  · rename_i notDue
    exact Bool.eq_false_iff.mpr notDue

theorem setRegister (register : Register) (value : UInt32) :
    Moves (Kept Settled) (setRegister register value) := by
  unfold Device.setRegister
  cases register with
  | direction n => exact .ite (fun _ _ => id) fun _ _ => id
  | _ => exact fun _ => id

theorem setInputLine (line : InputLine) (asserted : Bool) :
    Moves (Kept Settled) (setInputLine line asserted) := by
  unfold Device.setInputLine
  cases line with
  | interrupt =>
    unfold Device.setInterruptLine
    exact Moves.get fun _ => .ite (fun _ _ => id) fun _ _ => id
  | capture => exact fun _ => id
  | reset => exact .ite (fun _ device _ => of_reset device) fun _ _ => id

/-- No operation leaves a reset over. -/
theorem operationFlow : OperationFlow (Kept Settled) where
  toFlow := Kept.flow Settled
  stop _ _ := id
  grant _ _ := id
  start _ _ := of_reset _
  reset _ _ := of_reset _
  setInputLine := setInputLine
  step _ _ := of_step _
  perform := busFlow.perform
  read := busFlow.read
  write := busFlow.write
  setRegister := setRegister
  takeHit _ := id

end Settled

/-! ## The invariant -/

/-- The invariant behind well-formed devices. -/
structure Sound (device : Device) : Prop where
  cpu : device.CpuInRange
  peripherals : device.PeripheralsInRange
  settled : device.Settled

theorem sound_new (variant : Variant) (clock : UInt32) : (new variant clock).Sound where
  cpu := Cpu.inRange_initial
  peripherals := by
    refine ⟨Timer.inRange_initial, Watchdog.inRange_initial, ?_, Ports.inRange_of_inputs ?_⟩
    · exact (by decide : HasOnly pendingMask (0 : UInt16))
    · intro index
      exact congrArg Port.direction (Vector.getElem_map _ _)
  settled := rfl

theorem Sound.operate {device : Device} (sound : device.Sound) (operation : Operation) :
    (operation.run device).2.Sound where
  cpu := CpuInRange.operationFlow.operation operation device sound.cpu
  peripherals := PeripheralsInRange.hostFlow.operation operation device sound.peripherals
  settled := Settled.operationFlow.operation operation device sound.settled

/-- Bonded pins are changed before the device is started, when they bound nothing. -/
theorem Sound.bondPins {device : Device} (sound : device.Sound) (bonded : Vector UInt8 4)
    (stopped : device.started = false) :
    Sound { device with ports := device.ports.setBonded bonded } := by
  obtain ⟨cpu, ⟨timer, watchdog, pending, ports⟩, settled⟩ := sound
  refine ⟨cpu, ⟨timer, watchdog, pending, ?_, ?_⟩, settled⟩
  · exact (congrArg Port.direction (Vector.getElem_ofFn _)).trans ports.portD
  · intro isStarted
    rw [stopped] at isStarted
    cases isStarted

theorem Sound.arrange {before after : Device} (sound : before.Sound) {arrangement : Arrangement}
    (arranged : arrangement.apply before = .ok after) : after.Sound := by
  obtain ⟨cpu, ⟨timer, watchdog, pending, ports⟩, settled⟩ := sound
  cases arrangement with
  | bondPins bonded =>
    change before.setBondedPins bonded = _ at arranged
    unfold Device.setBondedPins at arranged
    split at arranged
    · cases arranged
    · rename_i notStarted
      cases arranged
      exact Sound.bondPins ⟨cpu, ⟨timer, watchdog, pending, ports⟩, settled⟩ bonded
        (Bool.eq_false_iff.mpr notStarted)
  | loadImage offset image =>
    change before.loadImage offset image = _ at arranged
    unfold Device.loadImage at arranged
    split at arranged
    · cases arranged
      exact ⟨cpu, ⟨timer, watchdog, pending, ports⟩, settled⟩
    · cases arranged
  | wire bench =>
    cases arranged
    exact ⟨cpu, ⟨timer, watchdog, pending, ports⟩, settled⟩
  | mark breakpoints breakpointHit watches =>
    cases arranged
    exact ⟨cpu, ⟨timer, watchdog, pending, ports⟩, settled⟩

/-- The restored directions are those of the snapshot on bonded pins. -/
theorem restoredPorts_get (target : Device) (registers : PortRegisters) (index : PortIndex) :
    (target.restoredPorts registers).get index =
      (((target.ports.get index).setInput (registers.input.get index)).setLatch
        (registers.latch.get index)).setDirection (registers.direction.get index) :=
  Vector.getElem_ofFn _

theorem Sound.restore {source : Device} (sound : source.Sound) (target : Device) :
    (Device.restore source.snapshot target).2.Sound where
  cpu := sound.cpu
  peripherals := by
    have ports : (target.restoredPorts source.snapshot.ports).InRange true := by
      refine ⟨?_, fun _ index => ?_⟩
      · have inputs : source.snapshot.ports.direction.get 3 = 0 :=
          (Vector.getElem_map _ _).trans sound.peripherals.ports.portD
        have value := congrArg Port.direction
          (restoredPorts_get target source.snapshot.ports 3)
        refine value.trans ?_
        change source.snapshot.ports.direction.get 3 &&& (target.ports.get 3).bonded = 0
        rw [inputs]
        exact UInt8.zero_and
      · rw [restoredPorts_get]
        exact .cut _ _
    have stored : PeripheralsInRange { target with
        cpu := source.cpu
        pending := source.pending
        lineAsserted := source.lineAsserted
        budget := source.budget
        resetDue := false
        memory := target.memory.overlay 0 source.memory.image.toArray
        ports := target.restoredPorts source.snapshot.ports
        timer := source.timer.masked
        watchdog := source.watchdog.masked
        started := true } :=
      ⟨Timer.inRange_masked _, Watchdog.inRange_masked _, sound.peripherals.pending, ports⟩
    refine PeripheralsInRange.refresh _ ?_
    exact PeripheralsInRange.onWatchdog (fun _ range => range.switchFixed _) _ stored
  settled := rfl

end Device

theorem Reachable.sound {device : Device} (reachable : Reachable device) : device.Sound := by
  induction reachable with
  | new variant clock => exact Device.sound_new variant clock
  | operate operation _ ih => exact ih.operate operation
  | arrange arrangement _ arranged ih => exact ih.arrange arranged
  | restore _ _ source _ => exact source.restore _

/-! ## Well-formed devices -/

/-- Every register of the device is in the range that its users rely on. -/
structure Device.WellFormed (device : Device) : Prop where
  pc : device.cpu.pc ≤ 0x1FFF
  stackFloor : 0x00C0 ≤ device.cpu.sp
  stackTop : device.cpu.sp ≤ 0x00FF
  cc : device.cpu.cc ≤ 0x1F
  timerControl : device.timer.control &&& 0xE3 = device.timer.control
  timerStatus : device.timer.status &&& 0xE0 = device.timer.status
  statusSeen : device.timer.seen &&& 0xE0 = device.timer.seen
  prescaler : device.timer.prescaler ≤ 15
  watchdogControl : device.watchdog.control ≤ 0x1F
  programmableCount : device.watchdog.programmableCount < 0x200000
  fixedCount : device.watchdog.fixedCount < 0x20000
  pending : device.pending &&& 0x0003 = device.pending
  image : device.memory.bytes.toArray.size = 8192
  portD : (device.ports.get 3).direction = 0
  settled : device.resetDue = false
  /-- outputs of a started device are bonded pins -/
  outputs : device.started = true → ∀ index : PortIndex,
    (device.ports.get index).direction &&& (device.ports.get index).bonded =
      (device.ports.get index).direction

/-- Every device that a host can come by is well formed, between any two operations. -/
theorem Reachable.wellFormed {device : Device} (reachable : Reachable device) :
    device.WellFormed := by
  obtain ⟨cpu, peripherals, settled⟩ := reachable.sound
  have timer := peripherals.timer
  have watchdog := peripherals.watchdog
  exact {
    pc := UInt16.le_iff_toNat_le.mpr (Nat.le_of_lt_succ cpu.pc)
    stackFloor := UInt16.le_iff_toNat_le.mpr cpu.floor
    stackTop := UInt16.le_iff_toNat_le.mpr cpu.top
    cc := cpu.cc.le8
    timerControl := timer.control
    timerStatus := timer.status
    statusSeen := timer.seen
    prescaler := UInt8.le_iff_toNat_le.mpr (Nat.le_of_lt_succ timer.prescaler)
    watchdogControl := watchdog.control.le8
    programmableCount := UInt32.lt_iff_toNat_lt.mpr watchdog.programmableCount
    fixedCount := UInt32.lt_iff_toNat_lt.mpr watchdog.fixedCount
    pending := peripherals.pending
    image := Vector.size_toArray _
    portD := peripherals.ports.portD
    settled := settled
    outputs := peripherals.ports.bonded }

/-- A started device with a restored snapshot, as one that a host comes by. -/
theorem Reachable.wellFormed_restored :
    Reachable (Device.restore (Operation.start.run (.new .c8 4000000)).2.snapshot
        (.new .c8a 4000000)).2 ∧
      (Device.restore (Operation.start.run (.new .c8 4000000)).2.snapshot
        (.new .c8a 4000000)).2.WellFormed := by
  have reachable := Reachable.restore (.operate .start (.new .c8 4000000)) (.new .c8a 4000000)
  exact ⟨reachable, Reachable.wellFormed reachable⟩

end M68HC05
