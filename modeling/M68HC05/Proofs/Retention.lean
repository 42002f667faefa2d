import M68HC05.Proofs.StepEvents
import M68HC05.Proofs.Timeout
import M68HC05.Snapshot.Container

/-!
What a reset keeps. `Retained` lists the state that a reset leaves alone; all else that a program
can come to see is set anew. So a reset is a function of the retained state
(`Device.inside_reset_eq`): nothing that ran before shows through it anywhere else, and a second
reset finds nothing to do. Power-on fills most of the retained state as well, and what is left then
is the memory, the bonded pins, the external interrupt line, the cycle counter and the budget
(`Device.retained_powered_eq`).

The main statement is `Device.reset_forgets`.
-/

namespace M68HC05

open M68HC05.Action

/-- The state that a reset leaves alone. -/
structure Retained where
  memory : Memory
  bonded : Vector UInt8 4
  inputs : Vector UInt8 4
  latches : Vector UInt8 4
  captureLevel : Bool
  /-- the bit of the control register that selects the edge -/
  captureEdge : UInt8
  status : UInt8
  capture : UInt16
  compare : UInt16
  programmableCount : UInt32
  key : UInt8
  timeoutFlag : UInt8
  /-- the switch of the non-programmable watchdog, where no mask option sets it -/
  fixedEnabled : Option Bool
  lineAsserted : Bool
  tick : UInt64
  budget : Int64

namespace Device

/-- The state of a device that a reset leaves alone. -/
def retained (device : Device) : Retained where
  memory := device.memory
  bonded := device.ports.map Port.bonded
  inputs := device.ports.map Port.input
  latches := device.ports.map Port.latch
  captureLevel := device.timer.captureLevel
  captureEdge := device.timer.control &&& Timer.captureEdge
  status := device.timer.status
  capture := device.timer.capture
  compare := device.timer.compare
  programmableCount := device.watchdog.programmableCount
  key := device.watchdog.key
  timeoutFlag := device.watchdog.control &&& Watchdog.timeoutFlag
  fixedEnabled :=
    if device.variant.hasFixedWatchdog then none else some device.watchdog.fixedEnabled
  lineAsserted := device.lineAsserted
  tick := device.cpu.tick
  budget := device.budget

/-- A device without what is around it: the settings of its host, the marks of a debugger, and the
bench. What is left is all that a program on the device can come to see. -/
def inside (device : Device) : Device :=
  { device with
    clock := 0
    started := false
    breakpoints := []
    breakpointHit := false
    watches := .empty
    bench := .bare }

variable {d e : Device}

/-- A snapshot is taken of the inside. -/
theorem snapshot_of_inside (same : d.inside = e.inside) : d.snapshot = e.snapshot :=
  (congrArg snapshot same :)

/-! ## Reset as a function of the retained state -/

theorem ports_of_retained (same : d.retained = e.retained) :
    d.ports.map Port.reset = e.ports.map Port.reset := by
  have bonded := congrArg Retained.bonded same
  have inputs := congrArg Retained.inputs same
  have latches := congrArg Retained.latches same
  apply Vector.ext
  intro i inside
  have bonded : d.ports[i].bonded = e.ports[i].bonded := by
    simpa only [retained, Vector.getElem_map] using congrArg (fun pins => pins[i]) bonded
  have input : d.ports[i].input = e.ports[i].input := by
    simpa only [retained, Vector.getElem_map] using congrArg (fun pins => pins[i]) inputs
  have latch : d.ports[i].latch = e.ports[i].latch := by
    simpa only [retained, Vector.getElem_map] using congrArg (fun pins => pins[i]) latches
  rw [Vector.getElem_map, Vector.getElem_map, Port.reset, Port.reset, bonded, input, latch]

theorem timer_of_retained (same : d.retained = e.retained) : d.timer.reset = e.timer.reset := by
  have level : d.timer.captureLevel = e.timer.captureLevel := congrArg Retained.captureLevel same
  have edge : d.timer.control &&& Timer.captureEdge = e.timer.control &&& Timer.captureEdge :=
    congrArg Retained.captureEdge same
  have status : d.timer.status = e.timer.status := congrArg Retained.status same
  have capture : d.timer.capture = e.timer.capture := congrArg Retained.capture same
  have compare : d.timer.compare = e.timer.compare := congrArg Retained.compare same
  rw [Timer.reset, Timer.reset, level, edge, status, capture, compare]

/-- The switch of the non-programmable watchdog is retained, or set from a retained byte. -/
theorem watchdog_of_retained (variant : d.variant = e.variant) (same : d.retained = e.retained) :
    d.resetWatchdog = e.resetWatchdog := by
  have memory : d.memory = e.memory := congrArg Retained.memory same
  have count : d.watchdog.programmableCount = e.watchdog.programmableCount :=
    congrArg Retained.programmableCount same
  have key : d.watchdog.key = e.watchdog.key := congrArg Retained.key same
  have flag : d.watchdog.control &&& Watchdog.timeoutFlag =
      e.watchdog.control &&& Watchdog.timeoutFlag := congrArg Retained.timeoutFlag same
  have enabled := congrArg Retained.fixedEnabled same
  unfold retained at enabled
  unfold resetWatchdog Watchdog.reset
  rw [← variant] at enabled ⊢
  rw [memory, count, key, flag]
  cases fitted : d.variant.hasFixedWatchdog with
  | true => rfl
  | false =>
    rw [fitted] at enabled
    have enabled : d.watchdog.fixedEnabled = e.watchdog.fixedEnabled := Option.some.inj enabled
    rw [enabled]

/-- A reset sees the retained state and nothing else. -/
theorem inside_reset_eq (variant : d.variant = e.variant) (same : d.retained = e.retained) :
    (reset d).2.inside = (reset e).2.inside := by
  have memory : d.memory = e.memory := congrArg Retained.memory same
  have tick : d.cpu.tick = e.cpu.tick := congrArg Retained.tick same
  have line : d.lineAsserted = e.lineAsserted := congrArg Retained.lineAsserted same
  have budget : d.budget = e.budget := congrArg Retained.budget same
  obtain ⟨watches, bench, first⟩ := d.reset_apply
  obtain ⟨watches', bench', second⟩ := e.reset_apply
  rw [first, second]
  unfold inside resetTarget Cpu.reset
  dsimp only
  rw [ports_of_retained same, timer_of_retained same, watchdog_of_retained variant same,
    variant, memory, tick, line, budget]

/-! ## The retained state in a reset -/

/-- A reset sets or keeps the switch of the non-programmable watchdog; where it sets it, the switch
is not retained. -/
theorem fixedEnabled_resetWatchdog (device : Device) :
    (if device.variant.hasFixedWatchdog then none else some device.resetWatchdog.fixedEnabled) =
      if device.variant.hasFixedWatchdog then none else some device.watchdog.fixedEnabled := by
  unfold resetWatchdog
  cases device.variant.hasFixedWatchdog with
  | true => rfl
  | false => rfl

theorem retained_reset (device : Device) : (reset device).2.retained = device.retained := by
  obtain ⟨watches, bench, same⟩ := device.reset_apply
  have pins {α : Type} (field : Port → α) (kept : field ∘ Port.reset = field) :
      (device.ports.map Port.reset).map field = device.ports.map field := by
    rw [Vector.map_map, kept]
  have edge : device.timer.reset.control &&& Timer.captureEdge =
      device.timer.control &&& Timer.captureEdge :=
    HasOnly.cut device.timer.control Timer.captureEdge
  have flag : device.resetWatchdog.control &&& Watchdog.timeoutFlag =
      device.watchdog.control &&& Watchdog.timeoutFlag := by
    rw [device.resetWatchdog_control]
    exact HasOnly.cut device.watchdog.control Watchdog.timeoutFlag
  have count : device.resetWatchdog.programmableCount = device.watchdog.programmableCount := by
    unfold resetWatchdog
    split <;> rfl
  have key : device.resetWatchdog.key = device.watchdog.key := by
    unfold resetWatchdog
    split <;> rfl
  rw [same]
  unfold retained
  dsimp only
  rw [pins Port.bonded rfl, pins Port.input rfl, pins Port.latch rfl, edge, flag, count, key,
    device.fixedEnabled_resetWatchdog]
  rfl

theorem variant_reset (device : Device) : (reset device).2.variant = device.variant := by
  obtain ⟨watches, bench, same⟩ := device.reset_apply
  rw [same]

/-! ## The retained state at power-on -/

/-- Power-on fills all of the retained state but for the memory, the bonded pins, the external
interrupt line, the cycle counter and the budget. -/
theorem retained_powered_eq (variant : d.variant = e.variant) (memory : d.memory = e.memory)
    (bonded : d.ports.map Port.bonded = e.ports.map Port.bonded)
    (line : d.lineAsserted = e.lineAsserted) (tick : d.cpu.tick = e.cpu.tick)
    (budget : d.budget = e.budget) : d.powered.retained = e.powered.retained := by
  have pins (device : Device) :
      (device.ports.map Port.powerOn).map Port.bonded = device.ports.map Port.bonded := by
    rw [Vector.map_map]
    rfl
  have filled (field : Port → UInt8) (fills : ∀ port, field (Port.powerOn port) = 0xFF)
      (device : Device) : (device.ports.map Port.powerOn).map field = Vector.replicate 4 0xFF := by
    rw [Vector.map_map]
    apply Vector.ext
    intro i inside
    rw [Vector.getElem_map, Vector.getElem_replicate]
    exact fills device.ports[i]
  unfold retained powered Timer.powerOn Watchdog.powerOn
  dsimp only
  rw [pins, pins, bonded, filled Port.input (fun _ => rfl),
    filled Port.input (fun _ => rfl), filled Port.latch (fun _ => rfl),
    filled Port.latch (fun _ => rfl), variant, memory, line, tick, budget]

/-! ## What is forgotten -/

/-- A reset keeps the retained state, and everything else inside the device comes from that state
alone: two devices of a part that agree on it are equal inside after a reset, so that a second reset
changes nothing. Power-on forgets more: devices of a part with the same memory, bonded pins,
external interrupt line, cycle counter and budget start equal inside, and save the same state. -/
theorem reset_forgets (device : Device) :
    (reset device).2.retained = device.retained ∧
      (∀ other : Device, device.variant = other.variant → device.retained = other.retained →
        (reset device).2.inside = (reset other).2.inside) ∧
      (reset (reset device).2).2.inside = (reset device).2.inside ∧
      ∀ other : Device, device.variant = other.variant → device.memory = other.memory →
        device.ports.map Port.bonded = other.ports.map Port.bonded →
        device.lineAsserted = other.lineAsserted → device.cpu.tick = other.cpu.tick →
        device.budget = other.budget →
        (start device).2.inside = (start other).2.inside ∧
          ∀ [Compressor], (start device).2.snapshot.encode (start device).2.variant =
            (start other).2.snapshot.encode (start other).2.variant := by
  refine ⟨device.retained_reset, fun other variant same => inside_reset_eq variant same,
    inside_reset_eq device.variant_reset device.retained_reset, ?_⟩
  intro other variant memory bonded line tick budget
  have powered : device.powered.retained = other.powered.retained :=
    retained_powered_eq variant memory bonded line tick budget
  have inside : (start device).2.inside = (start other).2.inside := inside_reset_eq variant powered
  have parts : (start device).2.variant = (start other).2.variant :=
    (congrArg Device.variant inside :)
  refine ⟨inside, ?_⟩
  intro _
  rw [snapshot_of_inside inside, parts]

/-- A device that stopped in the middle of its work is set back to a fresh one, by a reset if the
retained state is as new, and by power-on even with a flag, a latch and a count left over. -/
theorem reset_forgets_leftovers :
    let fresh := new .c8a 4000000
    let used := { fresh with
      cpu := { fresh.cpu with a := 0x5A, sp := 0x00C3, state := .stop }
      pending := 0x0003
      resetDue := true
      timer := { fresh.timer with
        control := 0xE1, seen := 0xE0, prescaler := 9, counter := 7, compareInhibited := true }
      watchdog := { fresh.watchdog with control := 0x0F, fixedCount := 99, fixedEnabled := true } }
    let marked := { used with
      ports := used.ports.map fun port => { port with latch := 0x5A, direction := 0xFF }
      timer := { used.timer with status := 0xE0, compare := 8 }
      watchdog := { used.watchdog with programmableCount := 500, control := 0x1F } }
    (reset used).2.inside = (reset fresh).2.inside ∧
      (start marked).2.inside = (start fresh).2.inside := by
  intro fresh used marked
  obtain ⟨-, forgets, -, -⟩ := reset_forgets used
  obtain ⟨-, -, -, restarts⟩ := reset_forgets marked
  have bonded : marked.ports.map Port.bonded = fresh.ports.map Port.bonded := Vector.map_map
  have edge : used.timer.control &&& Timer.captureEdge =
      fresh.timer.control &&& Timer.captureEdge := by decide
  have flag : used.watchdog.control &&& Watchdog.timeoutFlag =
      fresh.watchdog.control &&& Watchdog.timeoutFlag := by decide
  have same : used.retained = fresh.retained := by
    unfold retained
    rw [edge, flag]
    rfl
  exact ⟨forgets fresh rfl same, (restarts fresh rfl rfl bonded rfl rfl rfl).1⟩

end Device
end M68HC05
