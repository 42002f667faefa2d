import M68HC05.CommandLine
import M68HC05.Deflate.Stored
import M68HC05.Snapshot.Location
import M68HC05.Storage
import M68HC05.Text.Plain
import M68HC05.View

/-!
One session of the runner: load an image, start the device, run it, show it, and save its state if
that is asked for. The board of a session listens to all outputs and drives nothing. The result is
a transcript; where its lines go is for the caller to say, and so is the compressor, for which the
runner has its own.
-/

namespace M68HC05

open Text

/-- A line of the log. -/
structure LogLine where
  severity : Severity
  text : String

/-- The mark of a severity at the head of a log line. -/
def Severity.mark : Severity → String
  | .trace => "T"
  | .debug => "D"
  | .info => "*"
  | .warn => "W"
  | .error => "E"

/-- A severity is shown without the debug option. -/
def Severity.isPlain : Severity → Bool
  | .trace => false
  | .debug => false
  | _ => true

/-- What a line break in a log line becomes: the line goes on under a bar. -/
def LogLine.continuation : String := "\n |  "

/-- A log line as it is printed, with the line break at its end. Control sequences are taken out of
the whole, so one that is left open swallows the end of the line. -/
def LogLine.render (line : LogLine) : String :=
  let body := line.text.toList.flatMap fun c =>
    if c = '\n' then LogLine.continuation.toList else [c]
  plain ("[" ++ line.severity.mark ++ "] " ++ String.ofList body ++ "\n")

/-- What a session prints and logs, and whether it failed. -/
structure Transcript where
  log : List LogLine
  output : String
  failed : Bool

namespace Session

/-- What the board of a session says about a signal. -/
def signalText : Signal → Option String
  | .sample _ _ => none
  | .drive port value direction =>
    some ("PORT" ++ portLetter port ++ " <- " ++ hexByte value ++ " (DDR " ++ hexByte direction
      ++ ")")
  | .compareOutput level => some ("TCMP <- " ++ if level then "1" else "0")
  | .acknowledge _ => none

/-- The log line of a trace entry. Register traffic is not logged. -/
def lineOf? (debug : Bool) : Entry → Option LogLine
  | .signal signal => (signalText signal).map (⟨.info, ·⟩)
  | .remark remark =>
    if remark.severity.isPlain || debug && remark.severity = .debug then
      some ⟨remark.severity, remark.message⟩
    else none

/-- The log lines of what has happened to a device, first one first. -/
def traceLines (debug : Bool) (device : Device) : List LogLine :=
  device.bench.trace.reverse.filterMap (lineOf? debug)

/-- A board that listens to every output port and to the compare output. -/
def listeningBench : Bench :=
  { Bench.bare with outputs := .replicate 4 true, compareWired := true }

/-- Sets the breakpoints and watchpoints of a session. -/
def setMarks (options : CommandLine.Options) (device : Device) : Device :=
  { device with
    breakpoints := device.breakpoints ++ options.breakpoints
    watches := options.watchpoints.foldl (fun list address => (list.add address .write).2)
      device.watches }

/-- What is said about a run that ended at a mark. -/
def stopText (device : Device) : String :=
  match device.watches.hit with
  | some hit =>
    "*** Watchpoint #" ++ toString hit.index ++ " at 0x" ++ hexWord hit.address ++ ": "
      ++ hit.made.label ++ " " ++ hexByte hit.byte ++ " ***\n"
  | none => "*** Breakpoint at 0x" ++ hexWord device.cpu.pc ++ " ***\n"

/-- Dumps of all RAM of a device. -/
def ramDump (device : Device) : String :=
  String.join <| device.variant.addressMap.ramRanges.map fun (first, last) =>
    device.memoryDump first.toNat (last.toNat - first.toNat + 1)

/-- Runs a device and answers what is printed about it. -/
def runAndShow (options : CommandLine.Options) : Action String := do
  let used ← Device.execute options.cycles
  let device ← get
  let summary :=
    (if device.breakpointHit then stopText device else "")
      ++ "Ran " ++ toString used.toNat ++ " cycles.\n"
      ++ device.cpu.line ++ "\n" ++ device.registerLines
  modify fun device =>
    if device.breakpointHit then { device with watches := device.watches.takeHit.2 } else device
  if options.debug then
    let symbols ← Device.symbolLines
    return summary ++ "\nI/O registers:\n" ++ symbols ++ "\nRAM:\n" ++ ramDump (← get)
  else
    return summary

variable [Compressor] {m : Type → Type} [Monad m] [Storage m]

/-- Restores the saved state that a session begins with, if there is one. -/
def begin? (options : CommandLine.Options) (device : Device) : m (Except Failure Device) :=
  match options.loadState with
  | some path => device.loadFrom path
  | none => return .ok device

/-- Saves the state at the end of a session if that is asked for. -/
def finish (options : CommandLine.Options) (device : Device) :
    m (Except Failure (List LogLine)) := do
  if options.saveState then
    let path := Location.statePath options.image
    match ← device.saveTo path with
    | .ok () => return .ok [⟨.info, "state saved to " ++ path⟩]
    | .error failure => return .error failure
  else return .ok []

/-- Runs a session. -/
def run (options : CommandLine.Options) : m Transcript := do
  match ← Storage.readFile options.image with
  | .error fault => return ⟨[⟨.error, fault.message⟩], "", true⟩
  | .ok image =>
    match (Device.new options.variant options.clock).loadImage options.offset image.toArray with
    | .error failure => return ⟨[⟨.error, failure.message⟩], "", true⟩
    | .ok device =>
      let loaded : LogLine :=
        ⟨.info, options.variant.name ++ ": loaded " ++ toString image.length ++ " bytes at 0x"
          ++ hexWord options.offset⟩
      let started := (Device.start { device with bench := listeningBench }).2
      match ← begin? options started with
      | .error failure =>
        return ⟨loaded :: traceLines options.debug started ++ [⟨.error, failure.message⟩], "", true⟩
      | .ok ready =>
        let (output, ended) := runAndShow options (setMarks options ready)
        let log := loaded :: traceLines options.debug ended
        match ← finish options ended with
        | .ok lines => return ⟨log ++ lines, output, false⟩
        | .error failure => return ⟨log ++ [⟨.error, failure.message⟩], output, true⟩

end Session
end M68HC05
