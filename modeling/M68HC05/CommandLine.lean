import M68HC05.Variant

/-!
The command line of the runner: the image to run, and options in any order. An option that takes a
value takes the next argument or what follows an equals sign; an argument of two dashes ends the
options. Arguments are read from left to right, and the first fault or request for help decides.
-/

namespace M68HC05.CommandLine

/-- What to run and how. -/
structure Options where
  image : String
  variant : Variant
  /-- where the image is loaded -/
  offset : UInt16
  /-- oscillator frequency in hertz -/
  clock : UInt32
  /-- machine cycles to run -/
  cycles : UInt64
  breakpoints : List UInt16
  /-- addresses whose program writes stop the run -/
  watchpoints : List UInt16
  /-- a saved state to begin with -/
  loadState : Option String
  /-- save the state in the end -/
  saveState : Bool
  debug : Bool

/-- What a command line asks for. -/
inductive Request where
  | run (options : Options)
  | help
  | version

/-- Why a command line is refused. -/
inductive UsageFault where
  | unknownOption (text : String)
  | missingValue (name : String)
  | unexpectedValue (name : String)
  | badValue (name value : String)
  | repeated (name : String)
  | extraArgument (text : String)
  | missingImage

/-- The wording of a usage fault. -/
def UsageFault.message : UsageFault → String
  | .unknownOption text => "unexpected argument '" ++ text ++ "'"
  | .missingValue name => "a value is required for '--" ++ name ++ "'"
  | .unexpectedValue name => "'--" ++ name ++ "' takes no value"
  | .badValue name value => "invalid value '" ++ value ++ "' for '" ++ name ++ "'"
  | .repeated name => "'--" ++ name ++ "' cannot be used more than once"
  | .extraArgument text => "unexpected argument '" ++ text ++ "'"
  | .missingImage => "the image to run is required"

/-! ## Values -/

/-- A number from digits of a base; at least one digit. -/
def digitsValue? (base : Nat) (digits : List Char) : Option Nat :=
  if digits = [] then none
  else digits.foldlM (fun value c => (digit? c).map (value * base + ·)) 0
where
  /-- The value of a digit below the base. -/
  digit? (c : Char) : Option Nat :=
    let value? :=
      if '0' ≤ c ∧ c ≤ '9' then some (c.toNat - '0'.toNat)
      else if 'a' ≤ c ∧ c ≤ 'f' then some (c.toNat - 'a'.toNat + 10)
      else if 'A' ≤ c ∧ c ≤ 'F' then some (c.toNat - 'A'.toNat + 10)
      else none
    value?.filter (· < base)

/-- An unsigned number, with or without a plus sign. -/
def unsigned? (base : Nat) (text : List Char) : Option Nat :=
  match text with
  | '+' :: digits => digitsValue? base digits
  | digits => digitsValue? base digits

/-- A signed decimal number. -/
def signed? (text : List Char) : Option Int :=
  match text with
  | '-' :: digits => (digitsValue? 10 digits).map fun value => -(value : Int)
  | other => (unsigned? 10 other).map fun value => (value : Int)

/-- Drops a hexadecimal mark at the front as often as it is there. -/
def dropHexMarks : List Char → List Char
  | '0' :: 'x' :: rest => dropHexMarks rest
  | text => text

/-- An address in hexadecimal, after any number of marks `0x` and then of dollar signs. -/
def address? (text : String) : Option UInt16 :=
  let digits := (dropHexMarks text.toList).dropWhile (· = '$')
  (unsigned? 16 digits).bind fun value =>
    if value < 0x10000 then some (UInt16.ofNat value) else none

/-- A part by its short name on the command line. -/
def variant? : String → Option Variant
  | "c4" => some .c4
  | "c8" => some .c8
  | "705c8a" => some .c8a
  | _ => none

/-- A frequency. A sign is accepted, and the number has to be in range. -/
def clock? (text : String) : Option UInt32 :=
  (signed? text.toList).bind fun value =>
    if 0 ≤ value ∧ value < UInt32.size then some (UInt32.ofNat value.toNat) else none

/-- A number of cycles. -/
def cycles? (text : String) : Option UInt64 :=
  (unsigned? 10 text.toList).bind fun value =>
    if value < UInt64.size then some (UInt64.ofNat value) else none

/-- The path of a file, which is not empty. -/
def path? (text : String) : Option String :=
  if text = "" then none else some text

/-! ## Arguments -/

/-- What the arguments read so far have set. -/
structure Draft where
  image : Option String
  variant : Option Variant
  offset : Option UInt16
  clock : Option UInt32
  cycles : Option UInt64
  breakpoints : List UInt16
  watchpoints : List UInt16
  loadState : Option String
  saveState : Bool
  debug : Bool

/-- Nothing set. -/
def Draft.empty : Draft :=
  ⟨none, none, none, none, none, [], [], none, false, false⟩

/-- The options of a complete command line, with defaults for what it leaves open. -/
def Draft.finish (draft : Draft) : Except UsageFault Request :=
  match draft.image with
  | none => .error .missingImage
  | some image =>
    .ok <| .run
      { image
        variant := draft.variant.getD .c4
        offset := draft.offset.getD 0
        clock := draft.clock.getD 4000000
        cycles := draft.cycles.getD 100000
        breakpoints := draft.breakpoints
        watchpoints := draft.watchpoints
        loadState := draft.loadState
        saveState := draft.saveState
        debug := draft.debug }

/-- The value of an option that is given at most once. -/
def once {α : Type} (name text : String) (before value : Option α) : Except UsageFault α :=
  match value, before with
  | none, _ => .error (.badValue name text)
  | some _, some _ => .error (.repeated name)
  | some value, none => .ok value

/-- The value of an option that is given any number of times. -/
def each {α : Type} (name text : String) (value : Option α) : Except UsageFault α :=
  match value with
  | none => .error (.badValue name text)
  | some value => .ok value

/-- The option takes a value. -/
def takesValue (name : String) : Bool :=
  ["variant", "offset", "clock", "cycles", "break", "watch", "load-state"].contains name

/-- Sets an option to a value. -/
def Draft.setValue (draft : Draft) (name text : String) : Except UsageFault Draft :=
  match name with
  | "variant" => do
    return { draft with variant := ← once name text draft.variant (variant? text) }
  | "offset" => do
    return { draft with offset := ← once name text draft.offset (address? text) }
  | "clock" => do
    return { draft with clock := ← once name text draft.clock (clock? text) }
  | "cycles" => do
    return { draft with cycles := ← once name text draft.cycles (cycles? text) }
  | "break" => do
    return { draft with breakpoints := draft.breakpoints ++ [← each name text (address? text)] }
  | "watch" => do
    return { draft with watchpoints := draft.watchpoints ++ [← each name text (address? text)] }
  | "load-state" => do
    return { draft with loadState := ← once name text draft.loadState (path? text) }
  | _ => .error (.unknownOption name)

/-- What a switch does: it goes on with a changed draft or asks for something else. -/
def Draft.switch (draft : Draft) (name : String) : Except UsageFault (Draft ⊕ Request) :=
  match name with
  | "save-state" =>
    if draft.saveState then .error (.repeated name) else .ok (.inl { draft with saveState := true })
  | "debug" =>
    if draft.debug then .error (.repeated name) else .ok (.inl { draft with debug := true })
  | "help" => .ok (.inr .help)
  | "version" => .ok (.inr .version)
  | _ => .error (.unknownOption name)

/-- Sets the image, which is given once. -/
def Draft.setImage (draft : Draft) (text : String) : Except UsageFault Draft :=
  match draft.image, path? text with
  | some _, _ => .error (.extraArgument text)
  | none, none => .error (.badValue "image" text)
  | none, some path => .ok { draft with image := some path }

/-- An argument as its form shows it. -/
inductive Argument where
  | endOfOptions
  | long (name : String) (value : Option String)
  | short (letter : Char)
  | plain (text : String)

/-- The form of an argument. A single dash is plain. -/
def Argument.ofText (text : String) : Argument :=
  match text.toList with
  | ['-', '-'] => .endOfOptions
  | '-' :: '-' :: rest =>
    let name := String.ofList (rest.takeWhile (· ≠ '='))
    match rest.dropWhile (· ≠ '=') with
    | [] => .long name none
    | _ :: value => .long name (some (String.ofList value))
  | '-' :: letter :: _ => .short letter
  | _ => .plain text

/-- Reads arguments after the end of the options. -/
def readPlain (draft : Draft) : List String → Except UsageFault Request
  | [] => draft.finish
  | text :: rest => do
    readPlain (← draft.setImage text) rest

/-- Reads arguments into a draft. -/
def read (draft : Draft) : List String → Except UsageFault Request
  | [] => draft.finish
  | text :: rest =>
    match Argument.ofText text with
    | .endOfOptions => readPlain draft rest
    | .plain text => do
      read (← draft.setImage text) rest
    | .short 'h' => .ok .help
    | .short 'V' => .ok .version
    | .short _ => .error (.unknownOption text)
    | .long name (some value) =>
      if takesValue name then do
        read (← draft.setValue name value) rest
      else
        match draft.switch name with
        | .ok _ => .error (.unexpectedValue name)
        | .error fault => .error fault
    | .long name none =>
      if takesValue name then
        match rest with
        | value :: rest =>
          match Argument.ofText value with
          | .plain value => do
            read (← draft.setValue name value) rest
          | _ => .error (.missingValue name)
        | [] => .error (.missingValue name)
      else
        match draft.switch name with
        | .ok (.inl draft) => read draft rest
        | .ok (.inr request) => .ok request
        | .error fault => .error fault

/-- Reads a command line. -/
def parse (arguments : List String) : Except UsageFault Request :=
  read .empty arguments

/-- Name and version of the runner. -/
def versionText : String := "hc05-headless 0.1.0\n"

/-- How the runner is used. -/
def helpText : String :=
  "Run an M68HC05 ROM image without a front-end\n\n"
    ++ "Usage: hc05-run [OPTIONS] <ROM>\n\n"
    ++ "Arguments:\n"
    ++ "  <ROM>  Raw binary image\n\n"
    ++ "Options:\n"
    ++ "      --variant <VARIANT>        [default: c4] [possible values: c4, c8, 705c8a]\n"
    ++ "      --offset <OFFSET>          Load address of the image (hex) [default: 0]\n"
    ++ "      --clock <CLOCK>            Oscillator frequency in Hz [default: 4000000]\n"
    ++ "      --cycles <CYCLES>          Machine cycles to run [default: 100000]\n"
    ++ "      --break <BREAKPOINTS>      Stop at this PC (hex, repeatable)\n"
    ++ "      --watch <WATCHPOINTS>      Stop on a program write to this address (hex, repeatable)\n"
    ++ "      --load-state <LOAD_STATE>  Restore this save state before running\n"
    ++ "      --save-state               Write a save state next to the ROM when done\n"
    ++ "      --debug                    Debug logging, plus I/O register and RAM dumps\n"
    ++ "  -h, --help                     Print help\n"
    ++ "  -V, --version                  Print version\n"

end M68HC05.CommandLine
