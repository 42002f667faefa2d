import M68HC05.Trace

/-!
The test bench a device sits on: what the board wires to the pins, what it has been told so far,
and the trace of everything seen. The board answers a sample of a port as a function of the whole
exchange up to that moment, so a board may react to what the device drives and may change its
answers over time.
-/

namespace M68HC05

/-- What a wired board drives onto the pins of a port: a function of the exchange so far, latest
signal first. The latest signal is the sample being answered. -/
abbrev PinSource := List Signal → UInt8

structure Bench where
  /-- what drives the pins of each port, if they are wired for input -/
  sources : Vector (Option PinSource) 4
  /-- ports whose outputs the board listens to -/
  outputs : Vector Bool 4
  /-- the board listens to the compare output -/
  compareWired : Bool
  /-- the board listens to interrupt acknowledgements -/
  acknowledgeWired : Bool
  /-- the exchange so far, latest signal first -/
  history : List Signal
  /-- everything seen, latest entry first -/
  trace : List Entry

namespace Bench

/-- A bench with nothing wired. -/
def bare : Bench where
  sources := .replicate 4 none
  outputs := .replicate 4 false
  compareWired := false
  acknowledgeWired := false
  history := []
  trace := []

/-! ## Wiring -/

/-- Wires the pins of a port. -/
def wireInput (bench : Bench) (port : PortIndex) (source : PinSource) : Bench :=
  { bench with sources := bench.sources.setIfInBounds port (some source) }

/-- Listens to the outputs of a port. -/
def wireOutput (bench : Bench) (port : PortIndex) : Bench :=
  { bench with outputs := bench.outputs.setIfInBounds port true }

/-- Listens to the compare output. -/
def wireCompare (bench : Bench) : Bench :=
  { bench with compareWired := true }

/-- Listens to interrupt acknowledgements. -/
def wireAcknowledge (bench : Bench) : Bench :=
  { bench with acknowledgeWired := true }

/-- The board is wired for a signal. -/
def hears (bench : Bench) : Signal → Bool
  | .sample port _ => (bench.sources.get port).isSome
  | .drive port _ _ => bench.outputs.get port
  | .compareOutput _ => bench.compareWired
  | .acknowledge _ => bench.acknowledgeWired

/-! ## Recording -/

/-- Adds an entry; a signal that nothing is wired for leaves no mark. -/
def add (bench : Bench) : Entry → Bench
  | .signal signal =>
    if bench.hears signal then
      { bench with history := signal :: bench.history, trace := .signal signal :: bench.trace }
    else bench
  | .remark remark => { bench with trace := .remark remark :: bench.trace }

/-- Adds the entries of a report in order. -/
def record (bench : Bench) (report : List Entry) : Bench :=
  report.foldl add bench

/-- Samples the pins of a port through the mask of its inputs, if they are wired. -/
def sample (bench : Bench) (port : PortIndex) (mask : UInt8) : Option UInt8 × Bench :=
  match bench.sources.get port with
  | none => (none, bench)
  | some source =>
    let bench := bench.add (.signal (.sample port mask))
    (some (source bench.history), bench)

/-- Takes the trace, first entry first, and leaves an empty one. -/
def takeTrace (bench : Bench) : List Entry × Bench :=
  (bench.trace.reverse, { bench with trace := [] })

end Bench
end M68HC05
