import M68HC05.Proofs.ProgramCounter

/-!
The stack as a list. What the 64 bytes of the stack hold is a list of bytes, the last pushed first
(`Stacked`): a push puts a byte in front and loses what lies deeper than 64 bytes (`Stacked.push`),
and a pull takes the first byte off (`Stacked.pull`). Calls and returns are the same for addresses,
two bytes each (`Stacked.call`, `Stacked.rts`). Since each of them leaves a list behind, any
number of them follows by induction.

The main statement is `Device.stack_is_ring`.
-/

namespace M68HC05

open M68HC05.Action

/-! ## What the stack holds -/

/-- The addresses of the stack. -/
def inStack (address : UInt16) : Bool :=
  0x00C0 ≤ address && address ≤ 0x00FF

/-- Slots that are less than a round apart are different. -/
theorem Cpu.slot_sub_ne {sp : UInt16} {depth back : Nat} (apart : 0 < back) (round : back < 64)
    (deep : back ≤ depth) : slot sp (depth - back) ≠ slot sp depth := by
  intro same
  have places := congrArg UInt16.toNat same
  rw [toNat_slot, toNat_slot] at places
  omega

theorem Cpu.inStack_slot (sp : UInt16) (depth : Nat) : inStack (slot sp depth) = true := by
  obtain ⟨floor, ceiling⟩ := slot_bounds sp depth
  simp [inStack, floor, ceiling]

/-- The device is `depth` bytes deeper in the stack than `before`. The ring holds the bytes `top`,
the last pushed first, and no memory outside it has changed. -/
structure Stacked (before : Device) (depth : Nat) (top : List UInt8) (device : Device) : Prop where
  sp : device.cpu.sp = Cpu.slot before.cpu.sp depth
  deep : top.length ≤ depth
  room : top.length ≤ 64
  held (place : Nat) {byte : UInt8} : top[place]? = some byte →
    device.memory.read (Cpu.slot before.cpu.sp (depth - (place + 1))) = byte
  outside {address : UInt16} : inStack address = false →
    device.memory.read address = before.memory.read address

namespace Stacked

variable {before device after : Device} {depth : Nat} {top rest : List UInt8} {byte : UInt8}

/-- Nothing is pushed yet. -/
theorem start (range : device.CpuInRange) : Stacked device 0 [] device where
  sp := range.slot_zero.symm
  deep := Nat.le_refl 0
  room := Nat.zero_le 64
  held := nofun
  outside _ := rfl

/-- What leaves the memory and the stack pointer alone may follow. -/
theorem of_same (stacked : Stacked before depth top device)
    (memory : after.memory = device.memory) (sp : after.cpu.sp = device.cpu.sp) :
    Stacked before depth top after where
  sp := sp.trans stacked.sp
  deep := stacked.deep
  room := stacked.room
  held place _ inside := by
    rw [memory]
    exact stacked.held place inside
  outside off := by
    rw [memory]
    exact stacked.outside off

/-! ## Bytes -/

/-- A push lays a byte on top. Of 65 bytes the deepest is lost. -/
theorem push (stacked : Stacked before depth top device) (byte : UInt8) :
    Stacked before (depth + 1) ((byte :: top).take 64) (Device.push byte device).2 := by
  have memory : (Device.push byte device).2.memory =
      device.memory.take ⟨Cpu.slot before.cpu.sp depth, byte⟩ := by
    have wrote := (Wrote.write device.cpu.sp byte device).memory
    rw [stacked.sp, Cpu.busAddress_slot] at wrote
    rw [← stacked.sp] at wrote ⊢
    exact wrote
  have deep := stacked.deep
  refine ⟨?pointer, ?deep, ?room, fun place other inside => ?held, fun {address} off => ?outside⟩
  case pointer =>
    rw [Device.push_cpu]
    exact Cpu.pushed_slot stacked.sp
  case deep =>
    rw [List.length_take, List.length_cons]
    omega
  case room => exact List.length_take_le 64 _
  case held =>
    obtain ⟨near, inside⟩ : place < 64 ∧ (byte :: top)[place]? = some other := by
      simpa only [List.getElem?_take, Option.ite_none_right_eq_some] using inside
    rw [memory]
    cases place with
    | zero =>
      rw [List.getElem?_cons_zero, Option.some.injEq] at inside
      rw [Nat.zero_add, Nat.add_sub_cancel, ← inside]
      exact device.memory.read_take_self (Cpu.inRam_slot _ depth)
    | succ place =>
      rw [List.getElem?_cons_succ] at inside
      have reach := (List.getElem?_eq_some_iff.mp inside).1
      have below : Cpu.slot before.cpu.sp (depth - (place + 1)) ≠ Cpu.slot before.cpu.sp depth :=
        Cpu.slot_sub_ne (Nat.succ_pos place) near (by omega)
      rw [Nat.add_sub_add_right, device.memory.read_take_of_ne below.symm]
      exact stacked.held place inside
  case outside =>
    have elsewhere : Cpu.slot before.cpu.sp depth ≠ address := by
      rintro rfl
      rw [Cpu.inStack_slot] at off
      cases off
    rw [memory, device.memory.read_take_of_ne elsewhere]
    exact stacked.outside off

/-- A pull takes the byte on top. -/
theorem pull (stacked : Stacked before (depth + 1) (byte :: rest) device) :
    (Device.pull device).1 = byte ∧ Stacked before depth rest (Device.pull device).2 := by
  obtain ⟨value, memory, cpu⟩ := Device.pull_slot stacked.sp
  have first := stacked.held 0 List.getElem?_cons_zero
  rw [Nat.zero_add, Nat.add_sub_cancel] at first
  refine ⟨value.trans first, ?pointer, ?deep, ?room, fun place other inside => ?held,
    fun off => ?outside⟩
  case pointer => rw [cpu]
  case deep => exact Nat.le_of_succ_le_succ stacked.deep
  case room => exact Nat.le_of_succ_le stacked.room
  case held =>
    have under := stacked.held (place + 1) (List.getElem?_cons_succ.trans inside)
    rw [Nat.add_sub_add_right] at under
    rw [memory, under]
  case outside =>
    rw [memory]
    exact stacked.outside off

end Stacked

/-- Pulls bytes, the one on top first. -/
def Device.pulls : Nat → Action (List UInt8)
  | 0 => return []
  | count + 1 => do
    let byte ← pull
    let bytes ← pulls count
    return byte :: bytes

theorem Device.pulls_succ (count : Nat) (device : Device) :
    (pulls (count + 1) device).1 = (pull device).1 :: (pulls count (pull device).2).1 :=
  rfl

namespace Stacked

variable {before device : Device} {depth : Nat} {top : List UInt8}

/-- Pushes lay one byte on the other. -/
theorem pushes (stacked : Stacked before depth top device) (bytes : List UInt8) :
    Stacked before (depth + bytes.length) ((bytes.reverse ++ top).take 64)
      (bytes.forM Device.push device).2 := by
  induction bytes generalizing depth top device with
  | nil =>
    rw [List.reverse_nil, List.nil_append, List.take_of_length_le stacked.room]
    exact stacked
  | cons byte bytes ih =>
    have laid : (bytes.reverse ++ (byte :: top).take 64).take 64 =
        ((byte :: bytes).reverse ++ top).take 64 := by
      rw [List.reverse_cons, List.append_assoc, List.singleton_append, List.take_append,
        List.take_append, List.take_take, Nat.min_eq_left (Nat.sub_le 64 _)]
    have pushed := ih (stacked.push byte)
    rw [laid, Nat.add_right_comm] at pushed
    exact pushed

/-- Pulls take one byte off after the other. -/
theorem pulls {count : Nat} (stacked : Stacked before depth top device)
    (enough : count ≤ top.length) :
    (Device.pulls count device).1 = top.take count ∧
      Stacked before (depth - count) (top.drop count) (Device.pulls count device).2 := by
  induction count generalizing depth top device with
  | zero => exact ⟨rfl, stacked⟩
  | succ count ih =>
    obtain _ | ⟨byte, rest⟩ := top
    · cases enough
    · obtain ⟨under, rfl⟩ := Nat.exists_eq_add_of_le' (Nat.le_trans (Nat.succ_pos _) stacked.deep)
      obtain ⟨value, pulled⟩ := stacked.pull
      obtain ⟨values, left⟩ := ih pulled (Nat.le_of_succ_le_succ enough)
      rw [Nat.add_sub_add_right]
      refine ⟨?_, left⟩
      rw [Device.pulls_succ, value, values, List.take_succ_cons]

end Stacked

/-! ## Calls -/

/-- A call that is made at some address. -/
structure Call where
  /-- where the program is when it has fetched the opcode -/
  pc : UInt16
  instruction : Instruction

/-- Goes to the address and makes the call. -/
def Call.run (call : Call) : Action Unit := do
  Device.changeCpu fun cpu => { cpu with pc := call.pc }
  Device.perform call.instruction

/-- The address just past the call. -/
def Call.past (call : Call) : Nat :=
  (call.pc.toNat + (call.instruction.size - 1)) % addressSpace

/-- Returns from calls, and the addresses at which the program goes on. -/
def Device.returns : Nat → Action (List UInt16)
  | 0 => return []
  | count + 1 => do
    perform .rts
    let pc := (← get).cpu.pc
    let pcs ← returns count
    return pc :: pcs

theorem Device.returns_succ (count : Nat) (device : Device) :
    (returns (count + 1) device).1 = (perform .rts device).2.cpu.pc ::
      (returns count (perform .rts device).2).1 :=
  rfl

/-- A call finds its operand and pushes the address that it has come to. -/
theorem Device.perform_call {instruction : Instruction} (call : instruction.calls = true)
    (device : Device) : ∃ addressed : Device, addressed.memory = device.memory ∧
      addressed.cpu = (device.fetched (instruction.size - 1)).cpu ∧
      (perform instruction device).2.memory = (pushPc addressed).2.memory ∧
      (perform instruction device).2.cpu.sp = (pushPc addressed).2.cpu.sp := by
  cases instruction with
  | bsr => exact ⟨device.fetched 1, device.fetch_core.1, rfl, rfl, rfl⟩
  | jsr operand =>
    have rest : (Instruction.jsr operand).size - 1 = operand.size := Nat.add_sub_cancel_left 1 _
    rw [rest]
    exact ⟨(operandAddress operand device).2, device.operandAddress_memory operand,
      device.operandAddress_cpu operand, rfl, rfl⟩
  | _ => cases call

/-- The bytes of return addresses as they lie on the stack. -/
def wordBytes (words : List UInt16) : List UInt8 :=
  words.flatMap fun word => (Device.returnBytes word).reverse

theorem wordBytes_cons (word : UInt16) (words : List UInt16) :
    wordBytes (word :: words) = Half.high.byteOf word :: word.toUInt8 :: wordBytes words :=
  rfl

theorem length_wordBytes (words : List UInt16) : (wordBytes words).length = 2 * words.length := by
  induction words with
  | nil => rfl
  | cons word words ih =>
    rw [wordBytes_cons, List.length_cons, List.length_cons, ih, List.length_cons, Nat.mul_succ]

namespace Stacked

variable {before device : Device} {depth : Nat} {words : List UInt16}

theorem pushPc (stacked : Stacked before depth (wordBytes words) device)
    (room : words.length < 32) :
    Stacked before (depth + 2) (wordBytes (device.cpu.pc :: words)) (Device.pushPc device).2 := by
  have length := length_wordBytes words
  have low := stacked.push device.cpu.pc.toUInt8
  rw [List.take_of_length_le (by rw [List.length_cons]; omega)] at low
  have high := low.push (Half.high.byteOf device.cpu.pc)
  rw [List.take_of_length_le (by rw [List.length_cons, List.length_cons]; omega)] at high
  rw [wordBytes_cons]
  exact high

/-- A call lays the address past it on top. -/
theorem call (stacked : Stacked before depth (wordBytes words) device) (room : words.length < 32)
    {call : Call} (calls : call.instruction.calls = true) :
    ∃ past : UInt16, past.toNat % addressSpace = call.past ∧
      Stacked before (depth + 2) (wordBytes (past :: words)) (call.run device).2 := by
  let placed : Device := { device with cpu := { device.cpu with pc := call.pc } }
  obtain ⟨addressed, memory, cpu, memoryAfter, spAfter⟩ := Device.perform_call calls placed
  have sp : addressed.cpu.sp = device.cpu.sp := by
    rw [cpu, Device.fetched_cpu]
  have past : addressed.cpu.pc.toNat % addressSpace = call.past := by
    rw [cpu, Device.toNat_pc_fetched_mod]
    rfl
  have pushed := (stacked.of_same memory sp).pushPc room
  exact ⟨addressed.cpu.pc, past, pushed.of_same memoryAfter spAfter⟩

/-- A return goes on at the address on top. -/
theorem rts {past : UInt16}
    (stacked : Stacked before (depth + 2) (wordBytes (past :: words)) device) :
    (Device.perform .rts device).2.cpu.pc.toNat = past.toNat % addressSpace ∧
      Stacked before depth (wordBytes words) (Device.perform .rts device).2 := by
  obtain ⟨high, without⟩ := Stacked.pull stacked
  obtain ⟨low, left⟩ := Stacked.pull without
  refine ⟨?_, left.of_same rfl rfl⟩
  change (busAddress (joinBytes (Device.pull device).1
    (Device.pull (Device.pull device).2).1)).toNat = _
  have whole := Half.joinBytes_byteOf past
  rw [high, low, toNat_busAddress]
  exact congrArg (fun word : UInt16 => word.toNat % addressSpace) whole

/-- Calls lay one address on the other. -/
theorem calls (stacked : Stacked before depth (wordBytes words) device) {calls : List Call}
    (all : ∀ call ∈ calls, call.instruction.calls = true)
    (room : words.length + calls.length ≤ 32) :
    ∃ pasts : List UInt16, pasts.map (·.toNat % addressSpace) = calls.reverse.map Call.past ∧
      Stacked before (depth + 2 * calls.length) (wordBytes (pasts ++ words))
        (calls.forM Call.run device).2 := by
  induction calls generalizing depth words device with
  | nil => exact ⟨[], rfl, stacked⟩
  | cons call calls ih =>
    rw [List.length_cons] at room
    obtain ⟨past, place, called⟩ := stacked.call (by omega) (all call List.mem_cons_self)
    have fits : (past :: words).length + calls.length ≤ 32 := by
      rw [List.length_cons]
      omega
    obtain ⟨pasts, places, after⟩ :=
      ih called (fun later member => all later (List.mem_cons_of_mem call member)) fits
    refine ⟨pasts ++ [past], ?_, ?_⟩
    · rw [List.map_append, places, List.reverse_cons, List.map_append, List.map_singleton,
        List.map_singleton, place]
    · rw [List.append_assoc, List.singleton_append, List.length_cons, Nat.mul_add, Nat.mul_one,
        Nat.add_comm _ 2, ← Nat.add_assoc]
      exact after

/-- Returns take one address off after the other. -/
theorem returns {count : Nat} (stacked : Stacked before depth (wordBytes words) device)
    (enough : count ≤ words.length) :
    (Device.returns count device).1.map (·.toNat) =
        (words.take count).map (·.toNat % addressSpace) ∧
      Stacked before (depth - 2 * count) (wordBytes (words.drop count))
        (Device.returns count device).2 := by
  induction count generalizing depth words device with
  | zero => exact ⟨rfl, stacked⟩
  | succ count ih =>
    obtain _ | ⟨past, rest⟩ := words
    · cases enough
    · have deep := stacked.deep
      rw [length_wordBytes, List.length_cons] at deep
      obtain ⟨under, rfl⟩ := Nat.exists_eq_add_of_le' (show 2 ≤ depth by omega)
      obtain ⟨place, returned⟩ := stacked.rts
      obtain ⟨places, left⟩ := ih returned (Nat.le_of_succ_le_succ enough)
      rw [Nat.mul_add, Nat.mul_one, Nat.add_sub_add_right]
      refine ⟨?_, left⟩
      rw [Device.returns_succ, List.map_cons, places, place, List.take_succ_cons, List.map_cons]

end Stacked

namespace Device

/-- The stack is a ring of 64 bytes, last in first out. Pushes move the stack pointer down around
the ring, and pulls give the last bytes back in reverse order, up to 64 of them; and of up to 32
calls the returns lead to the addresses past them, the last call first. -/
theorem stack_is_ring {device : Device} (range : device.CpuInRange) :
    (∀ bytes : List UInt8,
      let pushed := (bytes.forM push device).2
      (pushed.cpu.sp.toNat : Int) =
          0x00C0 + ((device.cpu.sp.toNat : Int) - 0x00C0 - bytes.length) % 64 ∧
        (bytes.length ≤ 64 → (pulls bytes.length pushed).2.cpu.sp = device.cpu.sp) ∧
        ∀ count ≤ min bytes.length 64,
          (pulls count pushed).1 = bytes.reverse.take count ∧
            ∀ address, inStack address = false →
              (pulls count pushed).2.memory.read address = device.memory.read address) ∧
    ∀ calls : List Call, (∀ call ∈ calls, call.instruction.calls = true) → calls.length ≤ 32 →
      let called := (calls.forM Call.run device).2
      (returns calls.length called).1.map (·.toNat) = calls.reverse.map Call.past ∧
        (returns calls.length called).2.cpu.sp = device.cpu.sp := by
  have start := Stacked.start range
  refine ⟨fun bytes => ?bytes, fun calls all room => ?calls⟩
  case bytes =>
    intro pushed
    have laid := start.pushes bytes
    rw [Nat.zero_add, List.append_nil] at laid
    have height : (bytes.reverse.take 64).length = min bytes.length 64 := by
      rw [List.length_take, List.length_reverse, Nat.min_comm]
    refine ⟨?down, fun room => ?back, fun count few => ?_⟩
    case down =>
      have lies : pushed.cpu.sp.toNat = _ := congrArg UInt16.toNat laid.sp
      have floor := range.floor
      rw [Cpu.toNat_slot] at lies
      omega
    case back =>
      have enough : bytes.length ≤ (bytes.reverse.take 64).length := by
        omega
      have pulled := (laid.pulls enough).2.sp
      rw [Nat.sub_self, range.slot_zero] at pulled
      exact pulled
    · obtain ⟨values, left⟩ := laid.pulls (Nat.le_trans few (Nat.le_of_eq height.symm))
      refine ⟨?_, fun address off => left.outside off⟩
      rw [values, List.take_take, Nat.min_eq_left (Nat.le_trans few (Nat.min_le_right _ _))]
  case calls =>
    intro called
    have empty : Stacked device 0 (wordBytes []) device := start
    obtain ⟨pasts, places, laid⟩ := empty.calls all (by rw [List.length_nil]; omega)
    have many : pasts.length = calls.length := by
      have lengths := congrArg List.length places
      rw [List.length_map, List.length_map, List.length_reverse] at lengths
      exact lengths
    rw [List.append_nil, Nat.zero_add] at laid
    obtain ⟨values, left⟩ := laid.returns (Nat.le_of_eq many.symm)
    have sp := left.sp
    rw [Nat.sub_self, range.slot_zero] at sp
    refine ⟨?_, sp⟩
    rw [values, ← many, List.take_length, places]

/-- A part whose stack pointer is one place above the lowest. -/
def lowOnStack : Device :=
  { new .c8 4000000 with cpu := { Cpu.initial with sp := 0x00C1 } }

/-- Three bytes and two calls, the second at the end of the address space, go around the ring. -/
theorem stack_is_ring_around :
    (([1, 2, 3].forM push lowOnStack).2.cpu.sp.toNat : Int) = 0x00FE ∧
      (pulls 3 ([1, 2, 3].forM push lowOnStack).2).1 = [3, 2, 1] ∧
      (returns 2 ([⟨0x0100, .bsr⟩, ⟨0x1FFF, .jsr .extended⟩].forM Call.run lowOnStack).2).1.map
        (·.toNat) = [0x0001, 0x0101] := by
  have range : lowOnStack.CpuInRange := ⟨by decide, by decide, by decide, by decide⟩
  obtain ⟨bytes, calls⟩ := stack_is_ring range
  obtain ⟨down, -, each⟩ := bytes [1, 2, 3]
  have values := (each 3 (by decide)).1
  have places := (calls [⟨0x0100, .bsr⟩, ⟨0x1FFF, .jsr .extended⟩] (by decide) (by decide)).1
  exact ⟨down.trans (by decide), values.trans (by decide), places.trans (by decide)⟩

end Device
end M68HC05
