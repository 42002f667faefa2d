import Mathlib.Logic.Basic
import M68HC05.Proofs.Glance
import M68HC05.Proofs.PeripheralRange
import M68HC05.Proofs.Signals

/-!
Operations on a port. A port is operated by writes to its latch, writes to its direction register and
reads of its data register, and each operation tells the board of this port what has changed in it
(`PortOperation.signals_eq`). An access of the bus makes one of these operations where a register of
a port lies (`Device.read_operated`, `Device.write_operated`), and elsewhere leaves the ports alone
without a word to the board (`Device.read_aloof`, `Device.write_aloof`).
-/

namespace M68HC05

open M68HC05.Action

/-! ## Where the registers of the ports lie -/

namespace Ports

/-- The port whose data register lies at an address. -/
def dataAt? (place : UInt16) : Option PortIndex :=
  if place.toNat < 4 then some (wrapIndex place.toNat) else none

/-- The port whose direction register lies at an address. That of port D cannot be reached. -/
def directionAt? (place : UInt16) : Option PortIndex :=
  if 4 ≤ place.toNat ∧ place.toNat < 7 then some (wrapIndex (place.toNat - 4)) else none

end Ports

namespace Variant

variable {variant : Variant} {place offset : UInt16} {index : PortIndex}

/-- The only regions that the registers of the ports are wired to. -/
theorem port_regions (variant : Variant) : ∀ region ∈ variant.addressMap,
    (region.read = some .portData → region.first = 0 ∧ region.last = 3) ∧
      (region.write = some .portData → region.first = 0 ∧ region.last = 3) ∧
      (region.write = some .portDirection → region.first = 4 ∧ region.last = 6) := by
  cases variant with
  | c4 => decide
  | c8 => decide
  | c8a => decide

/-- The accesses that reach the registers of the ports. -/
theorem port_accesses (variant : Variant) :
    (∀ n < 4, variant.addressMap.reader? (.ofNat n) = some (.portData, .ofNat n) ∧
      variant.addressMap.writer? (.ofNat n) = some (.portData, .ofNat n)) ∧
    ∀ n < 3, variant.addressMap.writer? (.ofNat (4 + n)) = some (.portDirection, .ofNat n) := by
  cases variant with
  | c4 => decide
  | c8 => decide
  | c8a => decide

/-- Accesses of a data register go to its port. -/
theorem data_access (variant : Variant) (data : Ports.dataAt? place = some index) :
    ∃ offset, variant.addressMap.reader? place = some (.portData, offset) ∧
      variant.addressMap.writer? place = some (.portData, offset) ∧
      Ports.wrapIndex offset.toNat = index := by
  unfold Ports.dataAt? at data
  split at data
  · rename_i inside
    cases data
    have goes := variant.port_accesses.1 place.toNat inside
    rw [UInt16.ofNat_toNat] at goes
    exact ⟨place, goes.1, goes.2, rfl⟩
  · cases data

/-- Writes to a direction register go to its port. -/
theorem direction_access (variant : Variant) (direction : Ports.directionAt? place = some index) :
    ∃ offset, variant.addressMap.writer? place = some (.portDirection, offset) ∧
      Ports.wrapIndex offset.toNat = index := by
  unfold Ports.directionAt? at direction
  split at direction
  · rename_i inside
    cases direction
    have goes := variant.port_accesses.2 (place.toNat - 4) (by omega)
    have small : place.toNat - 4 < UInt16.size := Nat.lt_of_le_of_lt (Nat.sub_le _ _) place.toNat_lt
    rw [Nat.add_sub_cancel' inside.1, UInt16.ofNat_toNat] at goes
    exact ⟨.ofNat (place.toNat - 4), goes, by rw [UInt16.toNat_ofNat_of_lt' small]⟩
  · cases direction

/-- No other access goes to the data register of a port. -/
theorem not_data_access (other : Ports.dataAt? place = none) :
    variant.addressMap.reader? place ≠ some (.portData, offset) ∧
      variant.addressMap.writer? place ≠ some (.portData, offset) := by
  have above : ¬ place.toNat < 4 := by
    intro inside
    unfold Ports.dataAt? at other
    rw [if_pos inside] at other
    cases other
  constructor
  · intro goes
    have bounds := AddressMap.bounds_of_reader? goes fun region member =>
      (variant.port_regions region member).1
    exact above (Nat.lt_succ_of_le (UInt16.le_iff_toNat_le.mp bounds.2))
  · intro goes
    have bounds := AddressMap.bounds_of_writer? goes fun region member =>
      (variant.port_regions region member).2.1
    exact above (Nat.lt_succ_of_le (UInt16.le_iff_toNat_le.mp bounds.2))

/-- No other write goes to the direction register of a port. -/
theorem not_direction_access (other : Ports.directionAt? place = none) :
    variant.addressMap.writer? place ≠ some (.portDirection, offset) := by
  intro goes
  have bounds := AddressMap.bounds_of_writer? goes fun region member =>
    (variant.port_regions region member).2.2
  have inside : 4 ≤ place.toNat ∧ place.toNat < 7 :=
    ⟨UInt16.le_iff_toNat_le.mp bounds.1, Nat.lt_succ_of_le (UInt16.le_iff_toNat_le.mp bounds.2)⟩
  unfold Ports.directionAt? at other
  rw [if_pos inside] at other
  cases other

end Variant

/-! ## Operations on a port -/

/-- What the board sees of a port whatever its pins are: its outputs, and which pins they are. -/
def Port.outputs (port : Port) : UInt8 × UInt8 :=
  (port.latch &&& port.direction, port.direction)

/-- What the program has set of a port: all but the sample. -/
def Port.unsampled (port : Port) : Port :=
  { port with input := 0 }

namespace Port

/-- What the board is to hear of a port: a sample of its inputs if the program has read it, and what
it drives if its outputs have changed. -/
def exchanged (index : PortIndex) (sensed : Bool) (before after : Port) : List Signal :=
  (if sensed then [.sample index (~~~before.direction &&& before.bonded)] else []) ++
  if after.outputs ≠ before.outputs then
    [.drive index ((after.latch &&& after.direction) ||| (after.input &&& ~~~after.direction))
      after.direction]
  else []

variable {index : PortIndex} {port : Port}

/-- Of a port with the outputs it had before, the board hears at most a sample. -/
theorem exchanged_of_outputs {sensed : Bool} {before after : Port}
    (same : after.outputs = before.outputs) : exchanged index sensed before after =
      if sensed then [.sample index (~~~before.direction &&& before.bonded)] else [] := by
  unfold exchanged
  rw [if_neg (not_not_intro same), List.append_nil]

/-- The latch is seen to change exactly where a changed bit is an output. -/
theorem writeLatch_outputs_iff (byte : UInt8) :
    (writeLatch index port byte).next.outputs ≠ port.outputs ↔
      (port.latch ^^^ byte &&& port.bonded) &&& port.direction ≠ 0 := by
  unfold writeLatch outputs
  dsimp only
  rw [Ne, Prod.mk.injEq, and_iff_left rfl, xor_and_right8, Ne, UInt8.xor_eq_zero_iff, eq_comm]

/-- Every change of the direction register is seen. -/
theorem writeDirection_outputs_iff (byte : UInt8) :
    (writeDirection index port byte).next.outputs ≠ port.outputs ↔
      byte &&& port.bonded ≠ port.direction := by
  unfold writeDirection outputs
  dsimp only
  refine not_congr ⟨congrArg Prod.snd, fun same => ?_⟩
  rw [same]

end Port

/-- An operation on a port. -/
inductive PortOperation where
  | writeLatch (byte : UInt8)
  | writeDirection (byte : UInt8)
  /-- a read of the data register -/
  | sense (access : Access)
  deriving DecidableEq

namespace PortOperation

/-- The device after an operation on a port. -/
def run (index : PortIndex) (operation : PortOperation) (device : Device) : Device :=
  match operation with
  | writeLatch byte => (Device.onPort index (·.writeLatch index byte) device).2
  | writeDirection byte => (Device.onPort index (·.writeDirection index byte) device).2
  | sense access => (Device.readPort index access device).2

/-- The signals that an operation sends. -/
def signals (index : PortIndex) (operation : PortOperation) (port : Port) : List Signal :=
  match operation with
  | writeLatch byte => signalsOf (port.writeLatch index byte).report
  | writeDirection byte => signalsOf (port.writeDirection index byte).report
  | sense access => if access = .program then [.sample index port.inputMask] else []

variable {index other : PortIndex} {device : Device}

theorem run_sends (operation : PortOperation) (index : PortIndex) (device : Device) :
    Bench.Sent (operation.signals index (device.ports.get index)) device.bench
      (operation.run index device).bench := by
  cases operation with
  | writeLatch byte => exact device.bench.sent_record _
  | writeDirection byte => exact device.bench.sent_record _
  | sense access => exact Device.readPort_sends index access device

/-- A read of a port changes samples at most. -/
theorem sense_unsampled (access : Access) (index other : PortIndex) (device : Device) :
    (((sense access).run index device).ports.get other).unsampled =
      (device.ports.get other).unsampled := by
  cases access with
  | debugger => rfl
  | program =>
    dsimp only [run]
    cases wired : device.bench.sources.get index with
    | none => rw [Device.readPort_unwired_apply wired]
    | some source =>
      rw [Device.readPort_wired_apply wired]
      dsimp only
      rw [Ports.get_set]
      split
      · rename_i same
        rw [Fin.ext same]
        rfl
      · rfl

/-- A program read of a port leaves the other ports alone, and its own outputs. -/
theorem sense_outputs (access : Access) (index other : PortIndex) (device : Device) :
    (((sense access).run index device).ports.get other).outputs =
      (device.ports.get other).outputs :=
  (congrArg Port.outputs (sense_unsampled access index other device) :)

theorem onPort_get {α : Type} (operation : Port → Outcome Port α) (index other : PortIndex)
    (device : Device) : (Device.onPort index operation device).2.ports.get other =
      if index.val = other.val then (operation (device.ports.get index)).next
      else device.ports.get other :=
  Ports.get_set index other _

/-- An operation leaves the other ports alone. -/
theorem outputs_other (operation : PortOperation) (ne : index ≠ other) (device : Device) :
    ((operation.run index device).ports.get other).outputs = (device.ports.get other).outputs := by
  have apart : ¬ index.val = other.val := mt Fin.ext ne
  cases operation with
  | writeLatch byte =>
    dsimp only [run]
    rw [onPort_get, if_neg apart]
  | writeDirection byte =>
    dsimp only [run]
    rw [onPort_get, if_neg apart]
  | sense access => exact sense_outputs access index other device

/-- What the board is to hear of an operation on a port. -/
def exchanged (operation : PortOperation) (index : PortIndex) (before after : Port) : List Signal :=
  Port.exchanged index (operation = sense .program) before after

/-- An operation sends just what the board is to hear. -/
theorem signals_eq (operation : PortOperation) (index : PortIndex) (device : Device) :
    operation.signals index (device.ports.get index) =
      operation.exchanged index (device.ports.get index)
        ((operation.run index device).ports.get index) := by
  cases operation with
  | writeLatch byte =>
    dsimp only [signals, exchanged, run]
    rw [onPort_get, if_pos rfl, decide_eq_false PortOperation.noConfusion, Port.signalsOf_writeLatch]
    exact if_congr (Port.writeLatch_outputs_iff byte).symm rfl rfl
  | writeDirection byte =>
    dsimp only [signals, exchanged, run]
    rw [onPort_get, if_pos rfl, decide_eq_false PortOperation.noConfusion,
      Port.signalsOf_writeDirection]
    exact if_congr (Port.writeDirection_outputs_iff byte).symm rfl rfl
  | sense access =>
    dsimp only [signals, exchanged]
    rw [Port.exchanged_of_outputs (sense_outputs access index index device)]
    refine if_congr ?_ rfl rfl
    rw [decide_eq_true_eq, sense.injEq]

end PortOperation

/-! ## Accesses of the bus as operations -/

namespace Device

variable {index : PortIndex} {address : UInt16} {access : Access} {device : Device}

/-- The ports are as before, and nothing has been heard. -/
structure Aloof (before after : Device) : Prop where
  ports : after.ports = before.ports
  sent : Bench.Sent [] before.bench after.bench

theorem Aloof.flow : Flow Aloof where
  refl device := ⟨rfl, .refl device.bench⟩
  trans first second := ⟨second.ports.trans first.ports, first.sent.trans second.sent⟩

theorem aloof_observe (address : UInt16) (made : WatchKind) (byte : UInt8)
    (previous : Option UInt8) : Moves Aloof (observe address made byte previous) :=
  fun device => ⟨rfl, unheard_observe address made byte previous device⟩

/-- An operation on a port has been made, and nothing else that concerns ports or the board. -/
def Operated (index : PortIndex) (operation : PortOperation) (before after : Device) : Prop :=
  ∃ ready, Aloof before ready ∧ Aloof (operation.run index ready) after

namespace Operated

variable {other : PortIndex} {operation : PortOperation} {before after : Device}

theorem sent (operated : Operated index operation before after) :
    Bench.Sent (operation.exchanged index (before.ports.get index) (after.ports.get index))
      before.bench after.bench := by
  obtain ⟨ready, first, last⟩ := operated
  have sent := (first.sent.trans (operation.run_sends index ready)).trans last.sent
  rw [List.nil_append, List.append_nil, operation.signals_eq] at sent
  rw [last.ports, ← first.ports]
  exact sent

theorem outputs_other (operated : Operated index operation before after) (ne : index ≠ other) :
    (after.ports.get other).outputs = (before.ports.get other).outputs := by
  obtain ⟨ready, first, last⟩ := operated
  rw [last.ports, ← first.ports]
  exact operation.outputs_other ne ready

end Operated

/-- A read of a data register senses the port. -/
theorem read_operated (data : Ports.dataAt? (busAddress address) = some index) (access : Access)
    (device : Device) :
    (Device.read address access device).1 = (readPort index access device).1 ∧
      Operated index (.sense access) device (Device.read address access device).2 := by
  obtain ⟨offset, goes, -, rfl⟩ := device.variant.data_access data
  refine ⟨?_, device, Aloof.flow.refl device, ?_⟩
  · rw [read_value, goes]
    rfl
  · unfold Device.read
    rw [bind_apply, get_apply]
    dsimp only
    rw [goes]
    cases access with
    | debugger => exact Aloof.flow.refl _
    | program => exact aloof_observe (busAddress address) .read _ none _

theorem write_operated {byte : UInt8} {operation : PortOperation} {handler : Handler}
    {offset : UInt16}
    (goes : device.variant.addressMap.writer? (busAddress address) = some (handler, offset))
    (handled : ∀ device, (writeHandler handler offset (busAddress address) byte access device).2 =
      operation.run index device) :
    Operated index operation device (Device.write address byte access device).2 := by
  have passed (ready : Device) (variant : ready.variant = device.variant) :
      (passWrite (busAddress address) byte access ready).2 = operation.run index ready := by
    unfold passWrite
    rw [bind_apply, get_apply]
    dsimp only
    rw [variant, goes]
    exact handled ready
  unfold Device.write
  cases access with
  | program =>
    let observed := (observe (busAddress address) .write byte
      (some (device.memory.read (busAddress address))) device).2
    refine ⟨observed, aloof_observe _ _ _ _ device, ?_⟩
    rw [← passed observed rfl]
    exact Aloof.flow.refl _
  | debugger =>
    refine ⟨device, Aloof.flow.refl device, ?_⟩
    rw [← passed device rfl]
    exact Aloof.flow.refl _

/-- Reads of other registers leave the ports alone and are not heard. -/
theorem read_aloof (other : Ports.dataAt? (busAddress address) = none) :
    Moves Aloof (Device.read address access) := by
  refine Moves.read Aloof.flow (fun variant handler offset goes => ?_)
    fun _ byte => aloof_observe _ _ byte none
  have notData : handler ≠ .portData := by
    rintro rfl
    exact (Variant.not_data_access other).1 goes
  refine fun device => ⟨?_, readHandler_unheard notData offset _ access device⟩
  unfold readHandler
  cases handler with
  | portData => exact absurd rfl notData
  | _ => rfl

/-- Writes to other registers leave the ports alone and are not heard. -/
theorem write_aloof {byte : UInt8} (notData : Ports.dataAt? (busAddress address) = none)
    (notDirection : Ports.directionAt? (busAddress address) = none) :
    Moves Aloof (Device.write address byte access) := by
  refine Moves.write Aloof.flow (fun variant handler offset goes => ?_)
    fun _ previous => aloof_observe _ _ byte previous
  have data : handler ≠ .portData := by
    rintro rfl
    exact (Variant.not_data_access notData).2 goes
  have direction : handler ≠ .portDirection := by
    rintro rfl
    exact Variant.not_direction_access notDirection goes
  refine fun device => ⟨?_, writeHandler_unheard data direction offset _ byte access device⟩
  unfold writeHandler
  cases handler with
  | portData => exact absurd rfl data
  | portDirection => exact absurd rfl direction
  | watchdogKey =>
    cases access with
    | _ => rfl
  | watchdogClear =>
    cases access with
    | _ => rfl
  | rom =>
    cases access with
    | _ => rfl
  | _ => rfl

end Device
end M68HC05
