import M68HC05.Proofs.Mirror
import M68HC05.Proofs.Signals

/-!
Debugger reads. A debugger read leaves every device exactly as it is on which the timer's request
is mirrored (`Mirrors.glance`), and so every device that a host can come by. Over a whole session
of a host this makes debugger reads invisible: without them, the rest of the session goes the same
way, reply by reply and state by state (`glances_invisible`). What a debugger sees is what a program
would see, apart from the pins that a program read samples (`read_debugger_value`).
-/

namespace M68HC05

open M68HC05.Action

/-! ## What a debugger read changes -/

/-- A debugger read of the counter leaves the timer alone and reports nothing. -/
theorem Timer.readCounter_debugger (timer : Timer) (offset : UInt16) :
    timer.readCounter offset .debugger =
      ⟨(timer.readCounter offset .debugger).value, timer, []⟩ := by
  unfold Timer.readCounter
  cases Half.ofOffset offset with
  | high => rfl
  | low => rfl

theorem Timer.readCapture_value (timer : Timer) (half : Half) (access : Access) :
    (timer.readCapture half access).value = half.byteOf timer.capture := by
  cases access with
  | debugger => rfl
  | program =>
    cases half with
    | high => rfl
    | low => rfl

theorem Timer.readCompare_value (timer : Timer) (half : Half) (access : Access) :
    (timer.readCompare half access).value = half.byteOf timer.compare := by
  cases access with
  | debugger => rfl
  | program =>
    cases half with
    | high => rfl
    | low => rfl

theorem Timer.readCounter_value (timer : Timer) (offset : UInt16) :
    (timer.readCounter offset .program).value = (timer.readCounter offset .debugger).value := by
  unfold Timer.readCounter
  cases Half.ofOffset offset with
  | high => rfl
  | low => rfl

namespace Device

variable {device : Device}

/-- A timer access that neither changes the timer nor reports leaves a mirrored device alone. -/
theorem Mirrors.idle_timer (mirrors : device.Mirrors) {α : Type}
    {operation : Timer → Outcome Timer α}
    (idle : operation device.timer = ⟨(operation device.timer).value, device.timer, []⟩) :
    ((onTimer operation <* refreshTimerRequest) device).2 = device := by
  have quiet : (onTimer operation device).2 = device := by
    unfold onTimer
    rw [modifyGet_apply, idle]
    rfl
  rw [seqLeft_apply, quiet, mirrors.refresh]

theorem Mirrors.still_handler (mirrors : device.Mirrors) (handler : Handler)
    (offset address : UInt16) :
    (Device.readHandler handler offset address .debugger device).2 = device := by
  unfold Device.readHandler
  cases handler with
  | inputCapture => exact mirrors.idle_timer rfl
  | outputCompare => exact mirrors.idle_timer rfl
  | counter => exact mirrors.idle_timer (device.timer.readCounter_debugger offset)
  | _ => rfl

/-- A debugger read changes nothing at all. -/
theorem Mirrors.glance (mirrors : device.Mirrors) (address : UInt16) :
    (Device.read address .debugger device).2 = device := by
  unfold Device.read
  rw [bind_apply, get_apply]
  dsimp only
  rcases device.variant.addressMap.reader? (busAddress address) with _ | ⟨handler, offset⟩
  · rfl
  · exact mirrors.still_handler handler offset (busAddress address)

theorem Mirrors.glance_word (mirrors : device.Mirrors) (address : UInt16) :
    (Device.readWord address .debugger device).2 = device := by
  have first := mirrors.glance address
  have second := mirrors.glance (address + 1)
  unfold Device.readWord
  rw [bind_apply, bind_apply, pure_apply, first]
  exact second

/-- The report on the input and output registers is made of debugger reads only. -/
theorem Mirrors.glance_symbols (mirrors : device.Mirrors) : (symbolLines device).2 = device := by
  have still (address : UInt16) : Respects (fun d e => d = device ∧ e = device)
      (Device.read address .debugger) := by
    rintro d e ⟨rfl, rfl⟩
    exact ⟨rfl, mirrors.glance address, mirrors.glance address⟩
  have names {d e : Device} (both : d = device ∧ e = device) :
      symbolLinesOf d.variant = symbolLinesOf e.variant := by
    rw [both.1, both.2]
  exact (respects_symbolLines names still ⟨rfl, rfl⟩).2.1

/-! ## What a debugger read sees -/

/-- A read answers what the handler at its address answers. -/
theorem read_value (device : Device) (address : UInt16) (access : Access) :
    (Device.read address access device).1 =
      match device.variant.addressMap.reader? (busAddress address) with
      | some (handler, offset) =>
        (Device.readHandler handler offset (busAddress address) access device).1
      | none => 0xFF := by
  unfold Device.read
  rw [bind_apply, get_apply]
  dsimp only
  cases access with
  | program =>
    rcases device.variant.addressMap.reader? (busAddress address) with _ | ⟨handler, offset⟩
    · rfl
    · rfl
  | debugger =>
    rcases device.variant.addressMap.reader? (busAddress address) with _ | ⟨handler, offset⟩
    · rfl
    · rfl

/-- A port without wired pins reads alike for program and debugger. -/
theorem readPort_unwired {index : PortIndex} (unwired : device.bench.sources.get index = none) :
    (readPort index .program device).1 = (readPort index .debugger device).1 := by
  rw [readPort_unwired_apply unwired]
  rfl

/-- A debugger sees the byte that a program would read, except where a program read would sample
wired pins. -/
theorem read_debugger_value {address : UInt16}
    (unwired : ∀ offset, device.variant.addressMap.reader? (busAddress address) =
      some (.portData, offset) → device.bench.sources.get (Ports.wrapIndex offset.toNat) = none) :
    (Device.read address .debugger device).1 = (Device.read address .program device).1 := by
  rw [read_value, read_value]
  rcases goes : device.variant.addressMap.reader? (busAddress address) with _ | ⟨handler, offset⟩
  · rfl
  · unfold Device.readHandler
    cases handler with
    | portData => exact (readPort_unwired (unwired offset goes)).symm
    | inputCapture => exact (device.timer.readCapture_value (.ofOffset offset) .program).symm
    | outputCompare => exact (device.timer.readCompare_value (.ofOffset offset) .program).symm
    | counter => exact (device.timer.readCounter_value offset).symm
    | _ => rfl

end Device

/-! ## Sessions of a host -/

/-- A host with its device and the snapshots it has taken, the latest first. -/
structure Host where
  device : Device
  taken : List Snapshot

/-- What a host does next. -/
inductive Command where
  | operate (operation : Operation)
  | arrange (arrangement : Arrangement)
  /-- takes a snapshot -/
  | save
  /-- restores a snapshot taken before, if there is one at that place -/
  | restore (place : Nat)

/-- What a host hears. -/
inductive Reply where
  | answer (answer : Answer)
  | arranged (failure : Option Failure)
  | saved (snapshot : Snapshot)
  | restored (found : Bool)

/-- Carries out a command. -/
def Command.run (command : Command) (host : Host) : Reply × Host :=
  match command with
  | .operate operation =>
    let (answer, device) := operation.run host.device
    (.answer answer, { host with device })
  | .arrange arrangement =>
    match arrangement.apply host.device with
    | .ok device => (.arranged none, { host with device })
    | .error failure => (.arranged (some failure), host)
  | .save =>
    let snapshot := host.device.snapshot
    (.saved snapshot, { host with taken := snapshot :: host.taken })
  | .restore place =>
    match host.taken[place]? with
    | some snapshot =>
      (.restored true, { host with device := (Device.restore snapshot host.device).2 })
    | none => (.restored false, host)

/-- The command looks at the device as a debugger and does nothing else. -/
def Command.isGlance : Command → Bool
  | .operate (.read _ .debugger) => true
  | .operate (.readWord _ .debugger) => true
  | .operate .symbolLines => true
  | _ => false

namespace Host

/-- A host with a new device. -/
def new (variant : Variant) (clock : UInt32) : Host where
  device := .new variant clock
  taken := []

/-- Each reply with the state of the host after it, in the order of the commands. -/
def history : List Command → Host → List (Reply × Host)
  | [], _ => []
  | command :: commands, host => command.run host :: history commands (command.run host).2

/-- The state of the host after all commands. -/
def after (commands : List Command) (host : Host) : Host :=
  commands.foldl (fun host command => (command.run host).2) host

end Host

/-- Every command keeps the mirror of the host's device. -/
theorem Command.keeps_mirrors {host : Host} (mirrors : host.device.Mirrors) (command : Command) :
    (command.run host).2.device.Mirrors := by
  unfold Command.run
  cases command with
  | operate operation => exact Device.Mirrors.hostFlow.operation operation _ mirrors
  | arrange arrangement =>
    dsimp only
    rcases arranged : arrangement.apply host.device with failure | device
    · exact mirrors
    · exact mirrors.arrange arranged
  | save => exact mirrors
  | restore place =>
    dsimp only
    rcases host.taken[place]? with _ | snapshot
    · exact mirrors
    · exact Device.mirrors_restore _ _

/-- A glance leaves the host as it was. -/
theorem Command.glance_idle {host : Host} (mirrors : host.device.Mirrors) {command : Command}
    (glance : command.isGlance = true) : (command.run host).2 = host := by
  have idle {operation : Operation} (still : (operation.run host.device).2 = host.device) :
      ((Command.operate operation).run host).2 = host := by
    change ({ host with device := (operation.run host.device).2 } : Host) = host
    rw [still]
  unfold Command.isGlance at glance
  split at glance
  · exact idle (mirrors.glance _)
  · exact idle (mirrors.glance_word _)
  · exact idle mirrors.glance_symbols
  · cases glance

/-- Marks say which commands of a script are kept. Leaving out glances changes neither a reply to
the other commands nor the state after any of them. -/
theorem Host.history_kept {script : List (Command × Bool)}
    (glances : ∀ entry ∈ script, entry.2 = false → entry.1.isGlance = true) {host : Host}
    (mirrors : host.device.Mirrors) :
    history ((script.filter (·.2)).map (·.1)) host =
        ((script.zip (history (script.map (·.1)) host)).filter (·.1.2)).map (·.2) ∧
      after ((script.filter (·.2)).map (·.1)) host = after (script.map (·.1)) host := by
  induction script generalizing host with
  | nil => exact ⟨rfl, rfl⟩
  | cons entry script ih =>
    obtain ⟨command, kept⟩ := entry
    have later : ∀ entry ∈ script, entry.2 = false → entry.1.isGlance = true :=
      fun entry member => glances entry (List.mem_cons_of_mem _ member)
    cases kept with
    | true =>
      obtain ⟨replies, final⟩ := ih later (command.keeps_mirrors mirrors)
      refine ⟨?_, final⟩
      exact congrArg (command.run host :: ·) replies
    | false =>
      have idle := Command.glance_idle mirrors (glances (command, false) List.mem_cons_self rfl)
      change history ((script.filter (·.2)).map (·.1)) host =
          ((script.zip (history (script.map (·.1)) (command.run host).2)).filter (·.1.2)).map
            (·.2) ∧
        after ((script.filter (·.2)).map (·.1)) host =
          after (script.map (·.1)) (command.run host).2
      rw [idle]
      exact ih later mirrors

/-- Debugger reads are invisible. In a session of any commands with a new device of any part, leave
out any of the debugger reads: the replies to the other commands, the state of the host after each
of them and the state in the end stay the same. And what a debugger reads is what a program would
read at that moment, except at the data register of a port whose pins are wired. -/
theorem glances_invisible (variant : Variant) (clock : UInt32) (script : List (Command × Bool))
    (glances : ∀ entry ∈ script, entry.2 = false → entry.1.isGlance = true) :
    Host.history ((script.filter (·.2)).map (·.1)) (.new variant clock) =
        ((script.zip (Host.history (script.map (·.1)) (.new variant clock))).filter (·.1.2)).map
          (·.2) ∧
      Host.after ((script.filter (·.2)).map (·.1)) (.new variant clock) =
        Host.after (script.map (·.1)) (.new variant clock) ∧
      ∀ (device : Device) (address : UInt16),
        (∀ offset,
          device.variant.addressMap.reader? (busAddress address) = some (.portData, offset) →
            device.bench.sources.get (Ports.wrapIndex offset.toNat) = none) →
        (Device.read address .debugger device).1 = (Device.read address .program device).1 := by
  have mirrors : (Host.new variant clock).device.Mirrors := Device.mirrors_new variant clock
  obtain ⟨replies, final⟩ := Host.history_kept glances mirrors
  exact ⟨replies, final, fun _ _ unwired => Device.read_debugger_value unwired⟩

/-- Looking at the timer status between start and step, and at an unwired port. -/
theorem glances_invisible_between_start_and_step :
    Host.after [.operate .start, .operate .step] (.new .c8a 4000000) =
        Host.after [.operate .start, .operate (.read 0x0013 .debugger), .operate .step]
          (.new .c8a 4000000) ∧
      (Device.read 0x0000 .debugger (.new .c8a 4000000)).1 =
        (Device.read 0x0000 .program (.new .c8a 4000000)).1 := by
  obtain ⟨_, final, sight⟩ := glances_invisible .c8a 4000000
    [(.operate .start, true), (.operate (.read 0x0013 .debugger), false), (.operate .step, true)]
    (by decide)
  refine ⟨final, sight _ _ ?_⟩
  intro offset _
  exact Vector.getElem_replicate (Ports.wrapIndex offset.toNat).isLt

end M68HC05
