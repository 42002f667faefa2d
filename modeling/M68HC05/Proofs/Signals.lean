import M68HC05.Device.Run
import M68HC05.Proofs.Bus

/-!
What the board hears. The signals that an operation sends are those of its report, and the board
hears the ones that it is wired for (`Bench.Sent`). Sending is closed under going on, with the
signals in order, so that what an access or a span of time sends can be told from its parts. Only
the data and direction registers of the ports send anything when they are accessed
(`Device.readHandler_unheard`, `Device.writeHandler_unheard`), and time sends a level of the compare
output at most (`Device.charge_sends`).
-/

namespace M68HC05

/-! ## The signals of a report -/

/-- The signal of an entry. -/
def Entry.signal? : Entry → Option Signal
  | .signal sent => some sent
  | .remark _ => none

/-- The signals of a report, first one first. -/
def signalsOf (report : List Entry) : List Signal :=
  report.filterMap Entry.signal?

theorem signalsOf_cons (entry : Entry) (report : List Entry) :
    signalsOf (entry :: report) = entry.signal?.toList ++ signalsOf report := by
  cases entry with
  | _ => rfl

theorem signalsOf_append (first second : List Entry) :
    signalsOf (first ++ second) = signalsOf first ++ signalsOf second :=
  List.filterMap_append

/-- A remark on a condition is no signal. -/
theorem signalsOf_remarkIf (condition : Prop) [Decidable condition] (text : Remark) :
    signalsOf (if condition then [.remark text] else []) = [] := by
  split
  · rfl
  · rfl

theorem signalsOf_remarkUnless (condition : Prop) [Decidable condition] (text : Remark) :
    signalsOf (if condition then [] else [.remark text]) = [] := by
  split
  · rfl
  · rfl

namespace Timer

variable (timer : Timer)

theorem signalsOf_readStatus (access : Access) :
    signalsOf (timer.readStatus access).report = [] := by
  cases access with
  | debugger => rfl
  | program => exact signalsOf_remarkIf _ _

/-- The remarks on a cleared flag and on a hold that has ended. -/
theorem signalsOf_clearReport (flag : UInt8) (access : FlagAccess) (held : Bool) (text : Remark) :
    signalsOf (timer.clearReport flag access ++ if held then [.remark text] else []) = [] := by
  rw [signalsOf_append, signalsOf_remarkIf, List.append_nil]
  exact signalsOf_remarkIf _ _

theorem signalsOf_readCapture (half : Half) (access : Access) :
    signalsOf (timer.readCapture half access).report = [] := by
  cases access with
  | debugger => rfl
  | program =>
    cases half with
    | high => exact signalsOf_remarkUnless _ _
    | low => exact timer.signalsOf_clearReport captureFlag _ _ _

theorem signalsOf_setCaptureLevel (level : Bool) :
    signalsOf (timer.setCaptureLevel level).report = [] := by
  unfold setCaptureLevel
  dsimp only
  split
  · rfl
  · rfl

theorem signalsOf_readCompare (half : Half) (access : Access) :
    signalsOf (timer.readCompare half access).report = [] := by
  cases access with
  | debugger => rfl
  | program =>
    cases half with
    | high => rfl
    | low => exact signalsOf_remarkIf _ _

theorem signalsOf_writeCompare (half : Half) (data : UInt8) (access : Access) :
    signalsOf (timer.writeCompare half data access).report = [] := by
  cases access with
  | debugger => rfl
  | program =>
    cases half with
    | high => exact signalsOf_remarkUnless _ _
    | low => exact timer.signalsOf_clearReport compareFlag _ _ _

theorem signalsOf_readCounter (offset : UInt16) (access : Access) :
    signalsOf (timer.readCounter offset access).report = [] := by
  unfold readCounter
  generalize (if offset / 2 % 2 = 0 then Channel.normal else Channel.alternate) = channel
  cases Half.ofOffset offset with
  | high => rfl
  | low =>
    cases access with
    | debugger => rfl
    | program =>
      dsimp only [readCounterLow]
      rw [signalsOf_append, signalsOf_remarkIf, List.nil_append]
      cases channel with
      | normal => exact signalsOf_remarkIf _ _
      | alternate => rfl

/-- Time puts out a level at a compare that is not held off. -/
theorem signalsOf_advance (cycles : Nat) :
    signalsOf (timer.advance cycles).report =
      if timer.reachesCompare cycles = true ∧ timer.compareInhibited = false then
        [.compareOutput (timer.control &&& outputLevel ≠ 0)]
      else [] := by
  unfold advance
  rw [signalsOf_append, signalsOf_remarkIf, List.nil_append]
  cases timer.reachesCompare cycles with
  | false => rfl
  | true =>
    cases timer.compareInhibited with
    | false => rfl
    | true => rfl

end Timer

theorem Watchdog.signalsOf_readControl (watchdog : Watchdog) (access : Access) :
    signalsOf (watchdog.readControl access).report = [] := by
  cases access with
  | debugger => rfl
  | program => exact signalsOf_remarkIf _ _

theorem Watchdog.signalsOf_advance (watchdog : Watchdog) (kinds : WatchdogKinds) (cycles : Nat) :
    signalsOf (watchdog.advance kinds cycles).report = [] := by
  unfold advance
  rw [signalsOf_append, signalsOf_remarkIf, signalsOf_remarkIf]
  rfl

namespace Port

variable (index : PortIndex) (port : Port)

theorem signalsOf_accept (pins : UInt8) : signalsOf (accept index port pins).report = [] :=
  signalsOf_remarkIf _ _

theorem signalsOf_writeLatch (data : UInt8) :
    signalsOf (writeLatch index port data).report =
      if (port.latch ^^^ data &&& port.bonded) &&& port.direction ≠ 0 then
        [.drive index (writeLatch index port data).next.value port.direction]
      else [] := by
  dsimp only [writeLatch]
  rw [signalsOf_append, signalsOf_remarkIf, List.nil_append]
  split
  · rfl
  · rfl

theorem signalsOf_writeDirection (data : UInt8) :
    signalsOf (writeDirection index port data).report =
      if data &&& port.bonded ≠ port.direction then
        [.drive index (writeDirection index port data).next.value (data &&& port.bonded)]
      else [] := by
  dsimp only [writeDirection]
  split
  · rfl
  · rfl

end Port

theorem WatchList.signalsOf_observe (list : WatchList) (address : UInt16) (made : WatchKind)
    (byte : UInt8) (previous : Option UInt8) :
    signalsOf (list.observe address made byte previous).report = [] := by
  unfold WatchList.observe
  dsimp only
  split
  · rfl
  · rfl

/-! ## What the board hears -/

namespace Bench

/-- Signals have been sent to the board. It has heard those that it is wired for, in order, and is
wired as before. -/
structure Sent (signals : List Signal) (before after : Bench) : Prop where
  sources : after.sources = before.sources
  hears : after.hears = before.hears
  history : after.history = (signals.filter before.hears).reverse ++ before.history

namespace Sent

variable {first second : List Signal} {before between after : Bench}

theorem refl (bench : Bench) : Sent [] bench bench where
  sources := rfl
  hears := rfl
  history := rfl

theorem trans (one : Sent first before between) (two : Sent second between after) :
    Sent (first ++ second) before after where
  sources := two.sources.trans one.sources
  hears := two.hears.trans one.hears
  history := by
    rw [two.history, one.history, one.hears, List.filter_append, List.reverse_append,
      List.append_assoc]

end Sent

variable (bench : Bench)

/-- A signal that the board is not wired for leaves no mark. -/
theorem sent_of_unheard {signal : Signal} (unheard : ¬ bench.hears signal = true) :
    Sent [signal] bench bench := by
  refine ⟨rfl, rfl, ?_⟩
  rw [List.filter_cons_of_neg unheard]
  rfl

theorem sent_add (entry : Entry) : Sent entry.signal?.toList bench (bench.add entry) := by
  cases entry with
  | remark text => exact ⟨rfl, rfl, rfl⟩
  | signal sent =>
    dsimp only [add, Entry.signal?, Option.toList_some]
    split
    · rename_i heard
      refine ⟨rfl, rfl, ?_⟩
      rw [List.filter_cons_of_pos heard]
      rfl
    · rename_i unheard
      exact sent_of_unheard bench unheard

theorem sent_record (report : List Entry) :
    Sent (signalsOf report) bench (bench.record report) := by
  induction report generalizing bench with
  | nil => exact .refl bench
  | cons entry report ih =>
    rw [signalsOf_cons]
    exact (bench.sent_add entry).trans (ih (bench.add entry))

end Bench

/-! ## Operations of a device -/

namespace Device

open M68HC05.Action

variable {α : Type} {handler : Handler} {address : UInt16} {access : Access}

/-- Nothing has been sent to the board. -/
def Unheard (before after : Device) : Prop :=
  Bench.Sent [] before.bench after.bench

/-- A report without signals goes unheard. -/
theorem unheard_record {report : List Entry} (mute : signalsOf report = []) (device : Device) :
    Bench.Sent [] device.bench (device.bench.record report) := by
  have sent := device.bench.sent_record report
  rwa [mute] at sent

theorem unheard_observe (address : UInt16) (made : WatchKind) (byte : UInt8)
    (previous : Option UInt8) : Moves Unheard (observe address made byte previous) :=
  fun device => unheard_record (device.watches.signalsOf_observe address made byte previous) device

/-- Only reads of a port are heard. -/
theorem readHandler_unheard (other : handler ≠ .portData) (offset address : UInt16)
    (access : Access) : Moves Unheard (readHandler handler offset address access) := by
  intro device
  unfold readHandler
  cases handler with
  | portData => exact absurd rfl other
  | timerStatus => exact unheard_record (device.timer.signalsOf_readStatus access) device
  | inputCapture => exact unheard_record (device.timer.signalsOf_readCapture _ access) device
  | outputCompare => exact unheard_record (device.timer.signalsOf_readCompare _ access) device
  | counter => exact unheard_record (device.timer.signalsOf_readCounter offset access) device
  | watchdogControl => exact unheard_record (device.watchdog.signalsOf_readControl access) device
  | _ => exact .refl device.bench

/-- Only writes to a port are heard. -/
theorem writeHandler_unheard (notData : handler ≠ .portData) (notDirection : handler ≠ .portDirection)
    (offset address : UInt16) (byte : UInt8) (access : Access) :
    Moves Unheard (writeHandler handler offset address byte access) := by
  intro device
  unfold writeHandler
  cases handler with
  | portData => exact absurd rfl notData
  | portDirection => exact absurd rfl notDirection
  | timerControl => exact unheard_record rfl device
  | outputCompare => exact unheard_record (device.timer.signalsOf_writeCompare _ byte access) device
  | watchdogKey =>
    cases access with
    | program => exact unheard_record rfl device
    | debugger => exact .refl device.bench
  | watchdogControl => exact unheard_record rfl device
  | watchdogClear =>
    cases access with
    | program => exact unheard_record rfl device
    | debugger => exact .refl device.bench
  | rom =>
    cases access with
    | program => exact .refl device.bench
    | debugger => exact .refl device.bench
  | _ => exact .refl device.bench

theorem setCaptureLine_unheard (level : Bool) : Moves Unheard (setCaptureLine level) :=
  fun device => unheard_record (device.timer.signalsOf_setCaptureLevel level) device

/-- A program read of a port without wired pins answers what is there. -/
theorem readPort_unwired_apply {index : PortIndex} {device : Device}
    (unwired : device.bench.sources.get index = none) :
    readPort index .program device = ((device.ports.get index).value, device) := by
  unfold readPort Bench.sample
  simp only [bind_apply, get_apply, modifyGet_apply, Action.ite_apply, unwired, pure_apply]
  rfl

/-- A program read of a port with wired pins samples them, and answers what it then finds. -/
theorem readPort_wired_apply {index : PortIndex} {source : PinSource} {device : Device}
    (wired : device.bench.sources.get index = some source) :
    let port := device.ports.get index
    let heard := device.bench.add (.signal (.sample index port.inputMask))
    let taken := port.accept index (source heard.history)
    let ports := device.ports.setIfInBounds index taken.next
    readPort index .program device = ((ports.get index).value,
      { device with ports, bench := heard.record taken.report }) := by
  intro port heard taken ports
  unfold readPort Bench.sample
  simp only [bind_apply, get_apply, modifyGet_apply, Action.ite_apply, wired, pure_apply]
  rfl

/-- A program read of a port sends a sample of its inputs. -/
theorem readPort_sends (index : PortIndex) (access : Access) (device : Device) :
    Bench.Sent
      (if access = .program then [.sample index (device.ports.get index).inputMask] else [])
      device.bench (readPort index access device).2.bench := by
  cases access with
  | debugger => exact .refl device.bench
  | program =>
    rw [if_pos rfl]
    let port := device.ports.get index
    cases wired : device.bench.sources.get index with
    | none =>
      have unheard : ¬ device.bench.hears (.sample index port.inputMask) = true := by
        rw [Bench.hears, wired]
        exact Bool.false_ne_true
      rw [readPort_unwired_apply wired]
      exact device.bench.sent_of_unheard unheard
    | some source =>
      let heard := device.bench.add (.signal (.sample index port.inputMask))
      have sampled : Bench.Sent [.sample index port.inputMask] device.bench heard :=
        device.bench.sent_add (.signal (.sample index port.inputMask))
      rw [readPort_wired_apply wired]
      exact sampled.trans (unheard_record (port.signalsOf_accept index _)
        { device with bench := heard })

/-- Time sends a level of the compare output at a match that is not held off, and nothing else. -/
theorem charge_sends (cycles : Nat) (device : Device) :
    Bench.Sent
      (if device.timer.reachesCompare cycles = true ∧ device.timer.compareInhibited = false then
        [.compareOutput (device.timer.control &&& Timer.outputLevel ≠ 0)]
      else [])
      device.bench (charge cycles device).2.bench := by
  let advanced := device.bench.record (device.timer.advance cycles).report
  have timer : Bench.Sent (signalsOf (device.timer.advance cycles).report) device.bench advanced :=
    device.bench.sent_record _
  have watchdog := unheard_record
    (device.watchdog.signalsOf_advance device.variant.watchdogs cycles)
    { device with bench := advanced }
  have bench : (charge cycles device).2.bench =
      advanced.record (device.watchdog.advance device.variant.watchdogs cycles).report := by
    unfold charge
    simp only [bind_apply, get_apply, Action.ite_apply]
    split
    · rfl
    · rfl
  rw [bench, ← device.timer.signalsOf_advance, ← List.append_nil (signalsOf _)]
  exact timer.trans watchdog

end Device
end M68HC05
