import Mathlib.Algebra.GroupWithZero.Nat
import M68HC05.Proofs.RegisterFile
import M68HC05.Proofs.Signals
import M68HC05.Proofs.WellFormed

/-!
What inspection may rely on. Setting a register leaves alone what no register shows
(`Device.hidden_setRegister`), and the board is told nothing. A device is what its registers show
together with what none of them shows (`Device.eq_of_shown`), so that setting a register is without
effect exactly if the register holds the value already.

The main statements are `Reachable.registers_independent`, about the registers that a device has,
and `Device.setRegister_absent`, about those that it does not have: of these only the direction
registers are ignored.
-/

namespace M68HC05

open M68HC05.Action

/-! ## Words by their size -/

/-- A word below a power of two has only the bits below it. -/
theorem hasOnly_of_lt32 {word mask : UInt32} (n : Nat) (ones : mask.toNat = 2 ^ n - 1)
    (small : word.toNat < 2 ^ n) : HasOnly mask word := by
  apply UInt32.toNat_inj.mp
  rw [UInt32.toNat_and, ones, Nat.and_two_pow_sub_one_eq_mod]
  exact Nat.mod_eq_of_lt small

theorem hasOnly_byte (byte : UInt8) : HasOnly (0xFF : UInt32) byte.toUInt32 :=
  hasOnly_of_lt32 8 rfl byte.toNat_lt

theorem hasOnly_word (word : UInt16) : HasOnly (0xFFFF : UInt32) word.toUInt32 :=
  hasOnly_of_lt32 16 rfl word.toNat_lt

theorem hasOnly_flag (flag : Bool) : HasOnly (1 : UInt32) flag.toUInt32 := by
  cases flag with
  | _ => decide

namespace Device

variable {device : Device} {register other : Register}

/-! ## What no register shows -/

/-- The rest of a device. The timer's bit of the pending mask follows the timer's registers and is
left out; port D has no direction register. -/
structure Hidden where
  variant : Variant
  clock : UInt32
  state : RunState
  tick : UInt64
  memory : Memory
  bonded : PortIndex → UInt8
  directionD : UInt8
  /-- pending interrupts of the lines other than the timer's -/
  pending : UInt16
  lineAsserted : Bool
  started : Bool
  budget : Int64
  resetDue : Bool
  breakpoints : List UInt16
  breakpointHit : Bool
  watches : WatchList

/-- What no register of a device shows. -/
def hidden (device : Device) : Hidden where
  variant := device.variant
  clock := device.clock
  state := device.cpu.state
  tick := device.cpu.tick
  memory := device.memory
  bonded index := (device.ports.get index).bonded
  directionD := (device.ports.get (Ports.wrapIndex 3)).direction
  pending := device.pending &&& ~~~InterruptLine.timer.bit
  lineAsserted := device.lineAsserted
  started := device.started
  budget := device.budget
  resetDue := device.resetDue
  breakpoints := device.breakpoints
  breakpointHit := device.breakpointHit
  watches := device.watches

theorem hidden_changePort {n : Nat} {change : Port → Port}
    (bonded : ∀ port, (change port).bonded = port.bonded)
    (direction : (Ports.wrapIndex n).val = (Ports.wrapIndex 3).val →
      ∀ port, (change port).direction = port.direction) :
    (changePort n change device).2.hidden = device.hidden := by
  have pins : (changePort n change device).2.hidden.bonded = device.hidden.bonded :=
    funext fun _ => changePort_field Port.bonded fun _ => bonded
  have portD : (changePort n change device).2.hidden.directionD = device.hidden.directionD :=
    changePort_field Port.direction direction
  let around (bonded : PortIndex → UInt8) (directionD : UInt8) : Hidden :=
    { device.hidden with bonded, directionD }
  change around (changePort n change device).2.hidden.bonded
    (changePort n change device).2.hidden.directionD = _
  rw [pins, portD]

theorem hidden_refresh (device : Device) : (refreshTimerRequest device).2.hidden = device.hidden :=
  congrArg (fun pending => { device.hidden with pending })
    (mirrored_and_not_timer device.pending device.timer.requests)

/-- Setting a register leaves alone what no register shows. -/
theorem hidden_setRegister (register : Register) (value : UInt32) (device : Device) :
    (setRegister register value device).2.hidden = device.hidden := by
  cases register with
  | latch n => exact hidden_changePort (fun _ => rfl) fun _ _ => rfl
  | input n => exact hidden_changePort (fun _ => rfl) fun _ _ => rfl
  | direction n =>
    rw [setRegister_direction]
    split
    · rename_i known
      refine hidden_changePort (fun _ => rfl) fun there => ?_
      have value : n % 4 = 3 := there
      unfold Register.directionCount at known
      omega
    · rfl
  | timerControl => exact hidden_refresh _
  | timerStatus => exact hidden_refresh _
  | _ => rfl

end Device

/-- Remarks have been made, and nothing has been sent to the board. -/
def Bench.Remarked (before after : Bench) : Prop :=
  ∃ remarks : List Remark, after = { before with trace := remarks.map .remark ++ before.trace }

namespace Device

variable {device : Device} {register other : Register}

/-- Setting a register is remarked at most. -/
theorem remarked_setRegister (register : Register) (value : UInt32) (device : Device) :
    device.bench.Remarked (setRegister register value device).2.bench := by
  cases register with
  | direction n =>
    rw [setRegister_direction]
    split
    · exact ⟨[], rfl⟩
    · exact ⟨[.missingDirection n], rfl⟩
  | fixedEnable => exact ⟨[.fixedWatchdogSwitched _], rfl⟩
  | _ => exact ⟨[], rfl⟩

/-! ## Devices by their registers -/

theorem flag_inj {a b : Bool} (same : a.toUInt32 = b.toUInt32) : a = b := by
  revert same
  cases a with
  | _ =>
    cases b with
    | _ => decide

section Shown

variable {d e : Device} (shown : ∀ register, d.storedValue register = e.storedValue register)
include shown

theorem cpu_eq_of_shown (state : d.cpu.state = e.cpu.state) (tick : d.cpu.tick = e.cpu.tick) :
    d.cpu = e.cpu :=
  (Cpu.mk.injEq ..).mpr ⟨UInt16.toUInt32_inj.mp (shown .pc), UInt8.toUInt32_inj.mp (shown .a),
    UInt8.toUInt32_inj.mp (shown .x), UInt8.toUInt32_inj.mp (shown .cc),
    UInt16.toUInt32_inj.mp (shown .sp), state, tick⟩

theorem ports_eq_of_shown
    (bonded : ∀ index, (d.ports.get index).bonded = (e.ports.get index).bonded)
    (directionD : (d.ports.get (Ports.wrapIndex 3)).direction =
      (e.ports.get (Ports.wrapIndex 3)).direction) : d.ports = e.ports := by
  have port (index : PortIndex) : d.ports.get index = e.ports.get index := by
    have named : Ports.wrapIndex index.val = index := Fin.ext (Nat.mod_eq_of_lt index.isLt)
    have input := UInt8.toUInt32_inj.mp (shown (.input index.val))
    have latch := UInt8.toUInt32_inj.mp (shown (.latch index.val))
    rw [named] at input latch
    refine (Port.mk.injEq ..).mpr ⟨bonded index, input, latch, ?_⟩
    by_cases known : index.val < Register.directionCount
    · have direction := shown (.direction index.val)
      dsimp only [storedValue] at direction
      rw [if_pos known, if_pos known, named] at direction
      exact UInt8.toUInt32_inj.mp direction
    · have inside := index.isLt
      have atD : index.val = 3 := by
        unfold Register.directionCount at known
        omega
      rw [(Fin.ext atD : index = Ports.wrapIndex 3)]
      exact directionD
  exact Vector.ext fun i inside => port ⟨i, inside⟩

/-- The low bytes of the channels by their registers. -/
theorem lowByte_eq_of_shown (n : Nat) :
    d.timer.lowByte (storedValue.channelOf n) = e.timer.lowByte (storedValue.channelOf n) :=
  (LowByte.mk.injEq ..).mpr
    ⟨UInt8.toUInt32_inj.mp (shown (.counterBuffer n)), flag_inj (shown (.counterLatched n))⟩

theorem timer_eq_of_shown : d.timer = e.timer :=
  (Timer.mk.injEq ..).mpr ⟨flag_inj (shown .captureLevel),
    UInt8.toUInt32_inj.mp (shown .timerControl), UInt8.toUInt32_inj.mp (shown .timerStatus),
    UInt8.toUInt32_inj.mp (shown .statusSeen), UInt8.toUInt32_inj.mp (shown .prescaler),
    UInt16.toUInt32_inj.mp (shown .counter), UInt16.toUInt32_inj.mp (shown .capture),
    UInt16.toUInt32_inj.mp (shown .compare), flag_inj (shown .captureInhibit),
    flag_inj (shown .compareInhibit), lowByte_eq_of_shown shown 0, lowByte_eq_of_shown shown 1⟩

theorem watchdog_eq_of_shown : d.watchdog = e.watchdog :=
  (Watchdog.mk.injEq ..).mpr ⟨shown .programmableCount, shown .fixedCount,
    UInt8.toUInt32_inj.mp (shown .watchdogKey), UInt8.toUInt32_inj.mp (shown .watchdogControl),
    flag_inj (shown .fixedEnable)⟩

/-- A device is what its registers show, what no register shows, and its bench. -/
theorem eq_of_shown (hidden : d.hidden = e.hidden) (pending : d.pending = e.pending) :
    d = { e with bench := d.bench } :=
  (Device.mk.injEq ..).mpr ⟨congrArg Hidden.variant hidden, congrArg Hidden.clock hidden,
    cpu_eq_of_shown shown (congrArg Hidden.state hidden) (congrArg Hidden.tick hidden),
    congrArg Hidden.memory hidden,
    ports_eq_of_shown shown (congrFun (congrArg Hidden.bonded hidden))
      (congrArg Hidden.directionD hidden),
    timer_eq_of_shown shown, watchdog_eq_of_shown shown, pending,
    congrArg Hidden.lineAsserted hidden, congrArg Hidden.started hidden,
    congrArg Hidden.budget hidden, congrArg Hidden.resetDue hidden,
    congrArg Hidden.breakpoints hidden, congrArg Hidden.breakpointHit hidden,
    congrArg Hidden.watches hidden, rfl⟩

end Shown

/-! ## Registers in range -/

/-- A register keeps no more of a value than its bits. -/
theorem hasOnly_kept (device : Device) (register : Register) (value : UInt32) :
    HasOnly register.mask (device.kept register value) := by
  cases register with
  | sp =>
    refine hasOnly_of_lt32 8 rfl ?_
    have low : value.toNat &&& 0x3F < 2 ^ 8 := Nat.and_lt_two_pow _ (by decide)
    have kept : (device.kept .sp value).toNat = value.toNat &&& 0x3F ||| 0xC0 := by
      dsimp only [kept]
      rw [UInt32.toNat_or, UInt32.toNat_and]
      rfl
    rw [kept]
    exact Nat.or_lt_two_pow low (by decide)
  | direction n =>
    dsimp only [kept]
    split
    · exact (HasOnly.cut value _).and_left _
    · exact UInt32.zero_and
  | _ => exact .cut value _

/-- A register that is set reads as what it keeps of the value. -/
theorem register_setRegister (device : Device) (register : Register) (value : UInt32) :
    (setRegister register value device).2.register register = device.kept register value := by
  unfold Device.register
  rw [storedValue_setRegister]
  exact device.hasOnly_kept register value

/-- Registers in range hold nothing outside their bits. -/
theorem Sound.hasOnly_mask (sound : device.Sound) (register : Register) :
    HasOnly register.mask (device.storedValue register) := by
  obtain ⟨cpu, ⟨timer, watchdog, -, -⟩, -⟩ := sound
  cases register with
  | pc => exact hasOnly_of_lt32 13 rfl cpu.pc
  | sp => exact hasOnly_of_lt32 8 rfl (Nat.lt_succ_of_le cpu.top)
  | a => exact hasOnly_byte _
  | x => exact hasOnly_byte _
  | cc => exact cpu.cc.toUInt32
  | latch n => exact hasOnly_byte _
  | input n => exact hasOnly_byte _
  | direction n =>
    dsimp only [storedValue]
    split
    · exact hasOnly_byte _
    · exact UInt32.zero_and
  | timerControl => exact timer.control.toUInt32
  | timerStatus => exact timer.status.toUInt32
  | statusSeen => exact timer.seen.toUInt32
  | captureInhibit => exact hasOnly_flag _
  | compareInhibit => exact hasOnly_flag _
  | counterBuffer n => exact hasOnly_byte _
  | counterLatched n => exact hasOnly_flag _
  | captureLevel => exact hasOnly_flag _
  | capture => exact hasOnly_word _
  | compare => exact hasOnly_word _
  | prescaler => exact hasOnly_of_lt32 4 rfl timer.prescaler
  | counter => exact hasOnly_word _
  | watchdogKey => exact hasOnly_byte _
  | watchdogControl => exact watchdog.control.toUInt32
  | programmableCount => exact hasOnly_of_lt32 21 rfl watchdog.programmableCount
  | fixedEnable => exact hasOnly_flag _
  | fixedCount => exact hasOnly_of_lt32 17 rfl watchdog.fixedCount

theorem Sound.register_eq (sound : device.Sound) (register : Register) :
    device.register register = device.storedValue register :=
  sound.hasOnly_mask register

/-- A started device keeps all that its registers show. -/
theorem Sound.kept_storedValue (sound : device.Sound) (started : device.started = true)
    (register : Register) :
    device.kept register (device.storedValue register) = device.storedValue register := by
  have within := sound.hasOnly_mask register
  cases register with
  | sp =>
    have floor := sound.cpu.floor
    have top := sound.cpu.top
    have stacked : Cpu.stackAddress device.cpu.sp = device.cpu.sp := by
      apply UInt16.toNat_inj.mp
      rw [Cpu.toNat_stackAddress]
      omega
    have address := toUInt32_stackAddress device.cpu.sp.toUInt32
    have byte : device.cpu.sp.toUInt32 &&& 0xFF = device.cpu.sp.toUInt32 := within
    rw [byte, UInt16.toUInt16_toUInt32, stacked] at address
    exact address.symm
  | direction n =>
    have outputs := (sound.peripherals.ports.bonded started (Ports.wrapIndex n)).toUInt32
    dsimp only [kept, storedValue] at within ⊢
    split
    · rename_i known
      rw [if_pos known] at within
      rw [within]
      exact outputs
    · rfl
  | _ => exact within

/-! ## Independence -/

/-- A device is left as it was, apart from remarks. -/
def Untouched (before after : Device) : Prop :=
  ∃ bench, before.bench.Remarked bench ∧ after = { before with bench }

/-- A register that is set to what it holds leaves everything that registers show as it is. -/
theorem storedValue_setRegister_of_held {value : UInt32}
    (held : device.kept register value = device.storedValue register) (other : Register) :
    (setRegister register value device).2.storedValue other = device.storedValue other := by
  by_cases named : other.wrapped = register.wrapped
  · have set := device.storedValue_setRegister register value
    rw [held, ← storedValue_wrapped, ← storedValue_wrapped device, ← named, storedValue_wrapped,
      storedValue_wrapped] at set
    exact set
  · exact storedValue_setRegister_of_ne named value device

/-- Setting a register is without effect exactly if it holds already what it would keep. -/
theorem untouched_setRegister_iff {value : UInt32}
    (pending : device.kept register value = device.storedValue register →
      (setRegister register value device).2.pending = device.pending) :
    device.Untouched (setRegister register value device).2 ↔
      device.kept register value = device.storedValue register := by
  constructor
  · rintro ⟨bench, -, same⟩
    have set := device.storedValue_setRegister register value
    rw [same] at set
    exact set.symm
  · intro held
    exact ⟨_, remarked_setRegister register value device,
      eq_of_shown (storedValue_setRegister_of_held held) (hidden_setRegister register value device)
        (pending held)⟩

/-- Where the timer's bit of the pending mask is the timer's request, it goes with the timer. -/
theorem Mirrors.pending_eq {d e : Device} (first : d.Mirrors) (second : e.Mirrors)
    (hidden : d.hidden = e.hidden) (timer : d.timer = e.timer) : d.pending = e.pending := by
  have others : d.pending &&& ~~~InterruptLine.timer.bit =
      e.pending &&& ~~~InterruptLine.timer.bit := congrArg Hidden.pending hidden
  rw [first, second, timer]
  unfold mirrored
  split
  · rw [← and_not_or16, others, and_not_or16]
  · exact others

end Device

variable {device : Device} {register : Register}

/-- The registers of a started device are independent fields. A register that is set reads as what
it keeps of the value, the others read as before, and what no register shows is as before, the bench
included but for remarks. A register that is set to what it reads as leaves the device as it was. -/
theorem Reachable.registers_independent (reachable : Reachable device)
    (started : device.started = true) (member : register ∈ device.registers) (value : UInt32) :
    let after := (Device.setRegister register value device).2
    after.register register = device.kept register value ∧
      (∀ other ∈ device.registers, other ≠ register →
        after.register other = device.register other) ∧
      after.registers = device.registers ∧ after.hidden = device.hidden ∧
      device.bench.Remarked after.bench ∧
      device.Untouched (Device.setRegister register (device.register register) device).2 := by
  intro after
  have hidden := Device.hidden_setRegister register value device
  have apart (other : Register) (has : other ∈ device.registers) (ne : other ≠ register) :
      after.register other = device.register other := by
    have wrapped : other.wrapped ≠ register.wrapped := by
      rw [Device.wrapped_of_mem has, Device.wrapped_of_mem member]
      exact ne
    exact congrArg (· &&& other.mask) (Device.storedValue_setRegister_of_ne wrapped value device)
  have registers : after.registers = device.registers := by
    have variant : after.variant = device.variant := congrArg Device.Hidden.variant hidden
    unfold Device.registers
    rw [variant]
  have put : device.Untouched
      (Device.setRegister register (device.register register) device).2 := by
    have sound := reachable.sound
    have held := sound.kept_storedValue started register
    rw [sound.register_eq]
    refine (Device.untouched_setRegister_iff fun held => ?_).mpr held
    have mirrors := Device.Mirrors.setRegister register (device.storedValue register) device
      reachable.mirrors
    exact mirrors.pending_eq reachable.mirrors (Device.hidden_setRegister _ _ device)
      (Device.timer_eq_of_shown (Device.storedValue_setRegister_of_held held))
  exact ⟨device.register_setRegister register value, apart, registers, hidden,
    Device.remarked_setRegister register value device, put⟩

/-- The two counter buffers are latched apart from each other. -/
theorem Reachable.registers_independent_after_start :
    Reachable (Operation.start.run (.new .c4 4000000)).2 ∧
      (Operation.start.run (.new .c4 4000000)).2.started = true ∧
      .counterLatched 1 ∈ (Operation.start.run (.new .c4 4000000)).2.registers ∧
      (Device.setRegister (.counterLatched 1) 0xFFFFFFFF
        (Operation.start.run (.new .c4 4000000)).2).2.register (.counterLatched 1) = 1 ∧
      (Device.setRegister (.counterLatched 1) 0xFFFFFFFF
        (Operation.start.run (.new .c4 4000000)).2).2.register (.counterLatched 0) = 0 := by
  have reachable := Reachable.operate .start (.new .c4 4000000)
  have started : (Operation.start.run (.new .c4 4000000)).2.started = true := rfl
  have first : Register.counterLatched 1 ∈
      (Operation.start.run (.new .c4 4000000)).2.registers := by decide
  have second : Register.counterLatched 0 ∈
      (Operation.start.run (.new .c4 4000000)).2.registers := by decide
  have independent := reachable.registers_independent started first 0xFFFFFFFF
  exact ⟨reachable, started, first, independent.1, independent.2.1 _ second (by decide)⟩

/-! ## Registers that a device does not have -/

namespace Device

theorem setRegister_wrapped (register : Register) (value : UInt32) :
    setRegister register.wrapped value = setRegister register value := by
  cases register with
  | latch n =>
    dsimp only [Register.wrapped, setRegister, changePort, Register.mask]
    rw [wrapIndex_mod]
  | input n =>
    dsimp only [Register.wrapped, setRegister, changePort, Register.mask]
    rw [wrapIndex_mod]
  | counterBuffer n =>
    dsimp only [Register.wrapped, setRegister, Register.mask]
    rw [channelOf_mod]
  | counterLatched n =>
    dsimp only [Register.wrapped, setRegister, Register.mask]
    rw [channelOf_mod]
    rfl
  | _ => rfl

theorem mem_registers_of_shared (shared : register ∈ Register.shared) :
    register ∈ device.registers :=
  List.mem_append_left _ (List.mem_append_left _ shared)

/-- A direction register that a device does not have is past port C. -/
theorem directionCount_le_of_absent {n : Nat} (absent : .direction n ∉ device.registers) :
    Register.directionCount ≤ n := by
  have shared : ∀ known : Fin Register.directionCount,
      Register.direction known ∈ Register.shared := by decide
  exact Nat.le_of_not_lt fun known => absent (mem_registers_of_shared (shared ⟨n, known⟩))

/-- Only the stack pointer and direction registers keep another value than their mask says. -/
theorem kept_of_absent (absent : register ∉ device.registers)
    (other : ∀ n, register ≠ .direction n) (value : UInt32) :
    device.kept register value = value &&& register.mask := by
  cases register with
  | sp => exact absurd (mem_registers_of_shared (by decide)) absent
  | direction n => exact absurd rfl (other n)
  | _ => rfl

/-- Registers that a device may lack do not concern interrupts. -/
theorem pending_setRegister_of_absent (absent : register ∉ device.registers) (value : UInt32) :
    (setRegister register value device).2.pending = device.pending := by
  cases register with
  | timerControl => exact absurd (mem_registers_of_shared (by decide)) absent
  | timerStatus => exact absurd (mem_registers_of_shared (by decide)) absent
  | direction n =>
    rw [setRegister_direction]
    split
    · rfl
    · rfl
  | _ => rfl

/-- Of the registers that a device does not have, only a direction register is ignored. Any other
one keeps the value all the same, under the index that its own stands for, and reads as it from then
on; so setting it is without effect only if it holds the value already. Nothing else changes. -/
theorem setRegister_absent (absent : register ∉ device.registers) (value : UInt32) :
    let after := (setRegister register value device).2
    (device.Untouched after ↔
        (∃ n, register = .direction n) ∨ device.storedValue register = value &&& register.mask) ∧
      ((∀ n, register ≠ .direction n) → after.register register = value &&& register.mask) ∧
      after = (setRegister register.wrapped value device).2 ∧
      (∀ other : Register, other.wrapped ≠ register.wrapped →
        after.register other = device.register other) ∧
      after.hidden = device.hidden := by
  intro after
  have untouched := device.untouched_setRegister_iff fun _ =>
    pending_setRegister_of_absent absent value
  refine ⟨untouched.trans ?_, fun named => ?_, ?_, fun other apart => ?_, ?_⟩
  · by_cases direction : ∃ n, register = .direction n
    · obtain ⟨n, rfl⟩ := direction
      have past := Nat.not_lt.mpr (directionCount_le_of_absent absent)
      have none : device.kept (.direction n) value = device.storedValue (.direction n) := by
        dsimp only [kept, storedValue]
        rw [if_neg past, if_neg past]
      exact ⟨fun _ => .inl ⟨n, rfl⟩, fun _ => none⟩
    · rw [kept_of_absent absent (not_exists.mp direction), or_iff_right direction, eq_comm]
  · rw [register_setRegister, kept_of_absent absent named]
  · rw [setRegister_wrapped]
  · exact congrArg (· &&& other.mask) (storedValue_setRegister_of_ne apart value device)
  · exact hidden_setRegister register value device

/-- An index past port D names a latch all the same. -/
theorem setRegister_absent_after_start :
    .latch 5 ∉ (Operation.start.run (.new .c4 4000000)).2.registers ∧
      (setRegister (.latch 5) 0x42 (Operation.start.run (.new .c4 4000000)).2).2.register
        (.latch 5) = 0x42 ∧
      (setRegister (.latch 5) 0x42 (Operation.start.run (.new .c4 4000000)).2).2 =
        (setRegister (.latch 1) 0x42 (Operation.start.run (.new .c4 4000000)).2).2 := by
  have absent : .latch 5 ∉ (Operation.start.run (.new .c4 4000000)).2.registers := by decide
  obtain ⟨-, reads, wrapped, -⟩ := setRegister_absent absent 0x42
  exact ⟨absent, reads fun _ => Register.noConfusion, wrapped⟩

/-- The count of a watchdog that a part does not have is set, and reads as set. -/
theorem absent_count_set :
    .programmableCount ∉ (Operation.start.run (.new .c4 4000000)).2.registers ∧
      (Operation.start.run (.new .c4 4000000)).2.register .programmableCount = 0 ∧
      (setRegister .programmableCount 5
        (Operation.start.run (.new .c4 4000000)).2).2.register .programmableCount = 5 :=
  ⟨by decide, by decide, by decide⟩

end Device
end M68HC05
