import M68HC05.Proofs.Bits
import M68HC05.Proofs.Operation

/-!
The timer's bit of the pending mask. The device stores the timer's request next to the registers
that make it, and copies it anew whenever an operation may have changed them. So the stored bit
never differs from the request (`Device.Mirrors`), and copying it once more changes nothing.
-/

namespace M68HC05

open M68HC05.Action

namespace Device

/-- A pending mask with the timer's bit as the timer requests. -/
def mirrored (pending : UInt16) (requests : Bool) : UInt16 :=
  if requests then pending ||| InterruptLine.timer.bit
  else pending &&& ~~~InterruptLine.timer.bit

/-- The timer's bit of the pending mask is the timer's request. -/
def Mirrors (device : Device) : Prop :=
  device.pending = mirrored device.pending device.timer.requests

theorem refreshTimerRequest_apply (device : Device) :
    refreshTimerRequest device =
      ((), { device with pending := mirrored device.pending device.timer.requests }) := by
  rfl

/-! ## The pending mask -/

theorem mirrored_mirrored (pending : UInt16) (old new : Bool) :
    mirrored (mirrored pending old) new = mirrored pending new := by
  unfold mirrored
  cases old with
  | false =>
    cases new with
    | false => simp only [Bool.false_eq_true, if_false, UInt16.and_assoc, UInt16.and_self]
    | true => exact and_not_or16 pending _
  | true =>
    cases new with
    | false => exact or_and_not16 pending _
    | true => simp only [if_true, UInt16.or_assoc, UInt16.or_self]

/-- The external line's bit is set and cleared beside the timer's. -/
theorem mirrored_or_external (pending : UInt16) (requests : Bool) :
    mirrored (pending ||| InterruptLine.external.bit) requests =
      mirrored pending requests ||| InterruptLine.external.bit := by
  unfold mirrored
  cases requests with
  | false =>
    have apart : InterruptLine.external.bit &&& ~~~InterruptLine.timer.bit =
        InterruptLine.external.bit := by decide
    rw [if_neg Bool.false_ne_true, if_neg Bool.false_ne_true, or_and_right16, apart]
  | true =>
    rw [if_pos rfl, if_pos rfl, UInt16.or_assoc, UInt16.or_assoc,
      UInt16.or_comm InterruptLine.external.bit]

theorem mirrored_and_not_external (pending : UInt16) (requests : Bool) :
    mirrored (pending &&& ~~~InterruptLine.external.bit) requests =
      mirrored pending requests &&& ~~~InterruptLine.external.bit := by
  unfold mirrored
  cases requests with
  | false =>
    rw [if_neg Bool.false_ne_true, if_neg Bool.false_ne_true, UInt16.and_assoc, UInt16.and_assoc,
      UInt16.and_comm (~~~InterruptLine.external.bit)]
  | true =>
    have apart : InterruptLine.timer.bit &&& ~~~InterruptLine.external.bit =
        InterruptLine.timer.bit := by decide
    rw [if_pos rfl, if_pos rfl, or_and_right16, apart]

theorem mirrored_timer_bit (pending : UInt16) (requests : Bool) :
    mirrored pending requests &&& InterruptLine.timer.bit ≠ 0 ↔ requests = true := by
  unfold mirrored
  cases requests with
  | false =>
    rw [if_neg Bool.false_ne_true, UInt16.and_assoc, UInt16.not_and_self, UInt16.and_zero]
    simp
  | true =>
    rw [if_pos rfl, or_and_self16]
    simp only [iff_true]
    decide

/-- The mirror concerns no other bit. -/
theorem mirrored_and_not_timer (pending : UInt16) (requests : Bool) :
    mirrored pending requests &&& ~~~InterruptLine.timer.bit =
      pending &&& ~~~InterruptLine.timer.bit := by
  unfold mirrored
  cases requests with
  | false =>
    rw [if_neg Bool.false_ne_true, UInt16.and_assoc, UInt16.and_self]
  | true =>
    rw [if_pos rfl, or_and_not16]

/-! ## The invariant -/

theorem Mirrors.refresh {device : Device} (mirrors : device.Mirrors) :
    refreshTimerRequest device = ((), device) := by
  rw [refreshTimerRequest_apply, ← mirrors]

theorem mirrors_refresh (device : Device) : (refreshTimerRequest device).2.Mirrors :=
  (mirrored_mirrored device.pending device.timer.requests device.timer.requests).symm

theorem Mirrors.timer_bit {device : Device} (mirrors : device.Mirrors) :
    device.pending &&& InterruptLine.timer.bit ≠ 0 ↔ device.timer.requests = true := by
  have bit := mirrored_timer_bit device.pending device.timer.requests
  rw [← mirrors] at bit
  exact bit

/-- What touches neither the pending mask nor the timer's request keeps the mirror. -/
theorem Mirrors.of_same {before after : Device} (mirrors : before.Mirrors)
    (pending : after.pending = before.pending)
    (requests : after.timer.requests = before.timer.requests) : after.Mirrors := by
  unfold Mirrors at mirrors ⊢
  rw [pending, requests]
  exact mirrors

theorem Mirrors.of_external_set {before after : Device} (mirrors : before.Mirrors)
    (pending : after.pending = before.pending ||| InterruptLine.external.bit)
    (requests : after.timer.requests = before.timer.requests) : after.Mirrors := by
  unfold Mirrors at mirrors ⊢
  rw [pending, requests, mirrored_or_external]
  exact congrArg (· ||| InterruptLine.external.bit) mirrors

theorem Mirrors.of_external_cleared {before after : Device} (mirrors : before.Mirrors)
    (pending : after.pending = before.pending &&& ~~~InterruptLine.external.bit)
    (requests : after.timer.requests = before.timer.requests) : after.Mirrors := by
  unfold Mirrors at mirrors ⊢
  rw [pending, requests, mirrored_and_not_external]
  exact congrArg (· &&& ~~~InterruptLine.external.bit) mirrors

theorem Mirrors.readHandler (handler : Handler) (offset address : UInt16) (access : Access) :
    Moves (Kept Mirrors) (readHandler handler offset address access) := by
  have same : ∀ device : Device, Kept Mirrors device device := (Kept.flow Mirrors).refl
  unfold Device.readHandler
  cases handler with
  | portData =>
    refine Moves.readPort (Kept.flow Mirrors) (fun _ _ => id) fun pins device mirrors => ?_
    exact mirrors.of_same rfl rfl
  | portDirection => exact same
  | timerControl => exact same
  | timerStatus =>
    intro device mirrors
    refine mirrors.of_same rfl ?_
    cases access with
    | program => rfl
    | debugger => rfl
  | inputCapture => exact fun _ _ => mirrors_refresh _
  | outputCompare => exact fun _ _ => mirrors_refresh _
  | counter => exact fun _ _ => mirrors_refresh _
  | watchdogControl => exact fun _ mirrors => mirrors.of_same rfl rfl
  | rom => exact same
  | ram => exact same
  | watchdogKey => exact same
  | watchdogClear => exact same

theorem Mirrors.writeHandler (handler : Handler) (offset address : UInt16) (byte : UInt8)
    (access : Access) : Moves (Kept Mirrors) (writeHandler handler offset address byte access) := by
  have same : ∀ device : Device, Kept Mirrors device device := (Kept.flow Mirrors).refl
  unfold Device.writeHandler
  cases handler with
  | portData => exact fun _ mirrors => mirrors.of_same rfl rfl
  | portDirection => exact fun _ mirrors => mirrors.of_same rfl rfl
  | timerControl => exact fun _ _ => mirrors_refresh _
  | outputCompare => exact fun _ _ => mirrors_refresh _
  | watchdogKey =>
    cases access with
    | program => exact fun _ mirrors => mirrors.of_same rfl rfl
    | debugger => exact fun _ mirrors => mirrors.of_same rfl rfl
  | watchdogControl => exact fun _ mirrors => mirrors.of_same rfl rfl
  | watchdogClear =>
    cases access with
    | program => exact fun _ mirrors => mirrors.of_same rfl rfl
    | debugger => exact same
  | ram => exact fun _ mirrors => mirrors.of_same rfl rfl
  | rom =>
    cases access with
    | program => exact same
    | debugger => exact fun _ mirrors => mirrors.of_same rfl rfl
  | timerStatus => exact same
  | inputCapture => exact same
  | counter => exact same

theorem Mirrors.busFlow : BusFlow (Kept Mirrors) where
  toFlow := Kept.flow Mirrors
  cpu _ _ := id
  bench _ _ := id
  watched _ _ _ := id
  readHandler _ access := Mirrors.readHandler _ _ _ access
  writeHandler _ byte access := Mirrors.writeHandler _ _ _ byte access

/-- The passing of time makes the mirror. -/
theorem mirrors_charge (cycles : Nat) (device : Device) : (charge cycles device).2.Mirrors := by
  have refreshed := mirrors_refresh (onTimer (·.advance cycles) (changeCpu
    (·.addTicks cycles) device).2).2
  unfold Device.charge
  simp only [bind_apply, get_apply, Action.ite_apply]
  split
  · exact refreshed.of_same rfl rfl
  · exact refreshed.of_same rfl rfl

theorem Mirrors.reset : Moves (Kept Mirrors) reset :=
  fun _ _ => Mirrors.busFlow.jumpThrough resetVector _ (mirrors_refresh _)

theorem Mirrors.setInterruptLine (asserted : Bool) :
    Moves (Kept Mirrors) (setInterruptLine asserted) := by
  intro device mirrors
  unfold Device.setInterruptLine
  rw [bind_apply, get_apply]
  dsimp only
  rw [Action.ite_apply]
  split
  · exact mirrors.of_external_set rfl rfl
  · exact mirrors.of_same rfl rfl

theorem Mirrors.setRegister (register : Register) (value : UInt32) :
    Moves (Kept Mirrors) (setRegister register value) := by
  have low : ∀ (timer : Timer) (channel : Channel) (byte : LowByte),
      (timer.setLowByte channel byte).requests = timer.requests := by
    intro timer channel byte
    cases channel with
    | normal => rfl
    | alternate => rfl
  intro device mirrors
  unfold Device.setRegister
  cases register with
  | direction n =>
    dsimp only
    rw [Action.ite_apply]
    split
    · exact mirrors.of_same rfl rfl
    · exact mirrors.of_same rfl rfl
  | timerControl => exact mirrors_refresh _
  | timerStatus => exact mirrors_refresh _
  | counterBuffer n => exact mirrors.of_same rfl (low _ _ _)
  | counterLatched n => exact mirrors.of_same rfl (low _ _ _)
  | _ => exact mirrors.of_same rfl rfl

/-- Whatever a host asks of a device, the mirror is kept. -/
theorem Mirrors.hostFlow : HostFlow (Kept Mirrors) where
  toBusFlow := Mirrors.busFlow
  stop _ _ := id
  grant _ _ := id
  consume _ mirrors := mirrors.of_external_cleared rfl rfl
  charge cycles device _ := mirrors_charge cycles device
  reset := Mirrors.reset
  start _ _ := Mirrors.busFlow.jumpThrough resetVector _ (mirrors_refresh _)
  setInterruptLine := Mirrors.setInterruptLine
  setCaptureLine _ _ _ := mirrors_refresh _
  setRegister := Mirrors.setRegister

theorem mirrors_new (variant : Variant) (clock : UInt32) : (new variant clock).Mirrors := by
  change (0 : UInt16) = mirrored 0 Timer.initial.requests
  decide

theorem Mirrors.arrange {before after : Device} (mirrors : before.Mirrors)
    {arrangement : Arrangement} (arranged : arrangement.apply before = .ok after) :
    after.Mirrors := by
  cases arrangement with
  | bondPins bonded =>
    change before.setBondedPins bonded = _ at arranged
    unfold Device.setBondedPins at arranged
    split at arranged
    · cases arranged
    · cases arranged
      exact mirrors.of_same rfl rfl
  | loadImage offset image =>
    change before.loadImage offset image = _ at arranged
    unfold Device.loadImage at arranged
    split at arranged
    · cases arranged
      exact mirrors.of_same rfl rfl
    · cases arranged
  | wire bench =>
    cases arranged
    exact mirrors.of_same rfl rfl
  | mark breakpoints breakpointHit watches =>
    cases arranged
    exact mirrors.of_same rfl rfl

/-- Restoring makes the mirror, whatever the snapshot holds. -/
theorem mirrors_restore (snapshot : Snapshot) (device : Device) :
    (restore snapshot device).2.Mirrors :=
  mirrors_refresh _

end Device

/-- The timer's bit of the pending mask never differs from the timer's request. -/
theorem Reachable.mirrors {device : Device} (reachable : Reachable device) : device.Mirrors := by
  induction reachable with
  | new variant clock => exact Device.mirrors_new variant clock
  | operate operation _ ih => exact Device.Mirrors.hostFlow.operation operation _ ih
  | arrange arrangement _ arranged ih => exact ih.arrange arranged
  | restore _ _ _ _ => exact Device.mirrors_restore _ _

/-! ## Snapshots of any origin -/

/-- The devices that a host can come by when it also restores snapshots of its own making, with any
values in any field. -/
inductive Obtainable : Device → Prop where
  | new (variant : Variant) (clock : UInt32) : Obtainable (.new variant clock)
  | operate {device : Device} (operation : Operation) :
    Obtainable device → Obtainable (operation.run device).2
  | arrange {before after : Device} (arrangement : Arrangement) :
    Obtainable before → arrangement.apply before = .ok after → Obtainable after
  | restore {device : Device} (snapshot : Snapshot) :
    Obtainable device → Obtainable (Device.restore snapshot device).2

theorem Obtainable.mirrors {device : Device} (obtainable : Obtainable device) :
    device.Mirrors := by
  induction obtainable with
  | new variant clock => exact Device.mirrors_new variant clock
  | operate operation _ ih => exact Device.Mirrors.hostFlow.operation operation _ ih
  | arrange arrangement _ arranged ih => exact ih.arrange arranged
  | restore snapshot _ _ => exact Device.mirrors_restore snapshot _

/-- The timer interrupt is pending exactly while a status flag is set whose interrupt is enabled,
in every device that a host can come by, restored from whatever snapshot. -/
theorem Obtainable.timer_pending_iff {device : Device} (obtainable : Obtainable device) :
    device.pending &&& 0x0002 ≠ 0 ↔
      device.timer.control &&& device.timer.status &&& 0xE0 ≠ 0 := by
  have requests : device.timer.requests = true ↔
      device.timer.control &&& device.timer.status &&& 0xE0 ≠ 0 := decide_eq_true_iff
  exact obtainable.mirrors.timer_bit.trans requests

/-- A snapshot with a flag up and its interrupt enabled, and nothing pending. -/
theorem Obtainable.timer_pending_of_forged_snapshot :
    Obtainable (Device.restore { (Device.new .c8a 4000000).snapshot with
        timer := { Timer.initial with control := 0x20, status := 0x20 } } (.new .c8a 4000000)).2 ∧
      (Device.restore { (Device.new .c8a 4000000).snapshot with
        timer := { Timer.initial with control := 0x20, status := 0x20 } }
          (.new .c8a 4000000)).2.pending &&& 0x0002 ≠ 0 := by
  have obtainable := Obtainable.restore { (Device.new .c8a 4000000).snapshot with
    timer := { Timer.initial with control := 0x20, status := 0x20 } } (.new .c8a 4000000)
  exact ⟨obtainable, (Obtainable.timer_pending_iff obtainable).mpr (by decide)⟩

end M68HC05
